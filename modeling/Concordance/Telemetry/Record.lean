import Concordance.Telemetry.Context
import Concordance.Telemetry.Datum.Json
import Concordance.Telemetry.Level

/-!
Log records and the two forms of their lines: plain for readers, and one JSON object for programs. The
JSON form adds the identifiers of the trace, and every further field of the record that is not part of
each record anyway.
-/
namespace Concordance

/-- An error by its kind and its wording. -/
structure Failure where
  kind : Text
  wording : Text
  deriving Repr, DecidableEq

/-- An error on one line: its kind, and its wording if there is one. -/
def Failure.describe (failure : Failure) : Text :=
  if failure.wording.isEmpty then failure.kind
  else failure.kind ++ ": ".toList ++ failure.wording

/-- A record of something that happened. -/
structure LogRecord where
  level : Text
  logger : Text
  message : Text
  failure : Option Failure
  extra : List (Text × Datum)

namespace LogRecord

/-- A record without an error and without further fields. -/
def plain (level : Level) (logger message : Text) : LogRecord := ⟨level.name, logger, message, none, []⟩

/-- The line of a record for readers, without its time. -/
def plainLine (record : LogRecord) : Text :=
  record.level ++ " [".toList ++ record.logger ++ "] ".toList ++ record.message

/-- The greatest length of a message. -/
def messageLimit : Nat := 2000

/-- The greatest length of a further field that is a text. -/
def fieldLimit : Nat := 500

/-- A text cut to a length, with three dots where something was cut off. -/
def clip (limit : Nat) (t : Text) : Text :=
  if limit < t.length then t.take limit ++ "...".toList else t

/-- A field, cut if it is a text. -/
def clipField : Datum → Datum
  | .text value => .text (clip fieldLimit value)
  | other => other

/-- The names that every record uses for itself. -/
def ownNames : List Text :=
  ["name", "msg", "args", "levelname", "levelno", "pathname", "filename", "module", "exc_info",
    "exc_text", "stack_info", "lineno", "funcName", "created", "msecs", "relativeCreated", "thread",
    "threadName", "processName", "process", "message", "asctime"].map String.toList

/-- Whether a further field is written. A name that begins with an underscore is private. -/
def isWritten (name : Text) : Bool := !ownNames.contains name && name.head? != some '_'

/-- The last part of a name that has several. -/
def component? (logger : Text) : Option Text :=
  if logger.contains '.' then (Text.splitOn '.' logger).getLast? else none

/-- The fields of a record's line. A further field takes the place of one with its name. -/
def fields (record : LogRecord) (time : Text) (context : Context) : Assoc Text Datum :=
  let id (key : Text) : Datum := (context.get? key).getD (.text [])
  let component := (component? record.logger).map fun t => ("component".toList, Datum.text t)
  let failure := record.failure.map fun failure => ("exception".toList, Datum.text failure.describe)
  let own : List (Text × Datum) :=
    [("timestamp".toList, .text time), ("level".toList, .text record.level),
      ("message".toList, .text (clip messageLimit record.message)),
      ("logger".toList, .text record.logger), (Context.traceKey, id Context.traceKey),
      (Context.spanKey, id Context.spanKey)] ++ component.toList ++ failure.toList
  let further := record.extra.filter fun (name, _) => isWritten name
  Assoc.ofList (own ++ further.map fun (name, value) => (name, clipField value))

/-- The line of a record for programs. -/
def jsonLine (record : LogRecord) (time : Text) (context : Context) : Except DatumError Text :=
  (Datum.map (record.fields time context).entries).json.map Json.render

end LogRecord
end Concordance
