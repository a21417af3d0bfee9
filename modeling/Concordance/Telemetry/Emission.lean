import Concordance.Telemetry.Loggers
import Concordance.Telemetry.Record
import Concordance.Telemetry.Template

/-!
Records that are emitted by name: a logger, a level, a message template and its data. What comes out is
a line, or nothing if the logger does not keep the record or the template does not fit its data.
-/
namespace Concordance

/-- The form of log lines. -/
inductive LineLayout where
  | plain
  | json
  deriving Repr, DecidableEq

/-- A request to log something. -/
structure Emission where
  logger : Text
  level : Level
  template : Text
  data : List Datum

namespace Emission

def record? (emission : Emission) : Option LogRecord :=
  (Template.message emission.template emission.data).toOption.map
    (.plain emission.level (Loggers.nameOf emission.logger))

/-- The line of an emission, with its end. -/
def line? (emission : Emission) (layout : LineLayout) (loggers : Loggers) (time : Text)
    (context : Context) : Option Text := do
  if loggers.keeps emission.logger emission.level then
    let record ← emission.record?
    let line ← match layout with
      | .plain => some record.plainLine
      | .json => (record.jsonLine time context).toOption
    return line ++ ['\n']
  else none

/-- The lines of emissions in order. A logger is known from its first emission on. -/
def lines (layout : LineLayout) (time : Text) (context : Context) (loggers : Loggers) :
    List Emission → List Text
  | [] => []
  | emission :: emissions =>
    let loggers := loggers.meet emission.logger
    (emission.line? layout loggers time context).toList ++ lines layout time context loggers emissions

end Emission
end Concordance
