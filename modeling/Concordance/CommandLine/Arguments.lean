import Concordance.CommandLine.Syntax
import Concordance.Files.Path
import Concordance.Number.Integer
import Concordance.Telemetry.Span

/-!
The command line of the program: general options, then a command with options of its own. `build` makes an
index of documents, `stats` prints tables about an index, and `query` answers queries.
-/
namespace Concordance.CommandLine

/-- What the program is asked to do. -/
inductive Command where
  | build (sources : List Path) (output : Option Path) (maxWorkers : Option Int)
  | stats (index : Option Path)
  | query (index : Option Path) (queries : List Text) (json : Bool) (metricsOut : Option Path)
  deriving Repr, DecidableEq

/-- A command line. -/
structure Arguments where
  logLevel : Option Text
  logJson : Bool
  traceExporter : Option TraceExporter
  command : Command
  deriving Repr, DecidableEq

namespace Arguments

def program : Text := "positional-search".toList

/-- A parameter without a value. -/
def switch (names : List String) : Parameter := ⟨names.map String.toList, false, fun _ => none⟩

/-- A parameter with any value. -/
def setting (names : List String) : Parameter := ⟨names.map String.toList, true, fun _ => none⟩

/-- A value among a few. -/
def choiceRefusal (choices : List Text) (value : Text) : Option Text :=
  if choices.contains value then none
  else
    some ("invalid choice: ".toList ++ Text.quoted value ++ " (choose from ".toList ++
      Text.join ", ".toList (choices.map Text.quoted) ++ [')'])

/-- A value that is an integer. -/
def integerRefusal (value : Text) : Option Text :=
  if (Integer.read? value).isSome then none
  else some ("invalid int value: ".toList ++ Text.quoted value)

def help : Parameter := switch ["-h", "--help"]

def logLevelOption : Parameter := setting ["--log-level"]

def logJsonOption : Parameter := switch ["--log-json"]

def traceExporterOption : Parameter :=
  { setting ["--trace-exporter"] with
    refusal := choiceRefusal (TraceExporter.all.map TraceExporter.name) }

def outputOption : Parameter := setting ["--output", "-o"]

/-- How many documents are read at a time. -/
def maxWorkersOption : Parameter := { setting ["--max-workers"] with refusal := integerRefusal }

def indexOption : Parameter := setting ["--index"]

def queryOption : Parameter := setting ["--query", "-q"]

def jsonOption : Parameter := switch ["--json"]

def metricsOption : Parameter := setting ["--metrics-out"]

/-- What stands before the command. -/
def grammar : Grammar :=
  ⟨program, help, [logLevelOption, logJsonOption, traceExporterOption], .command "command".toList⟩

/-- The commands, with what stands behind each. -/
def commands : List (Text × Grammar) :=
  let behind (name : String) (parameters : List Parameter) (operand : Operand) : Text × Grammar :=
    (name.toList, ⟨program ++ ' ' :: name.toList, help, parameters, operand⟩)
  [behind "build" [outputOption, maxWorkersOption] (.several "sources".toList),
    behind "stats" [indexOption] .absent,
    behind "query" [indexOption, queryOption, jsonOption, metricsOption] .absent]

/-- The values that a parameter was given, in order. -/
def values (found : Found) (parameter : Parameter) : List Text :=
  found.given.filterMap fun given =>
    if given.parameter.names = parameter.names then given.value else none

/-- The value that counts: the last one. -/
def value? (found : Found) (parameter : Parameter) : Option Text := (values found parameter).getLast?

def isGiven (found : Found) (parameter : Parameter) : Bool :=
  found.given.any fun given => given.parameter.names = parameter.names

/-- The command of a name and of what was found behind it. -/
def commandOf (name : Text) (found : Found) : Command :=
  let path? (parameter : Parameter) : Option Path := (value? found parameter).map Path.ofText
  if name = "build".toList then
    .build ((found.operands.getD []).map Path.ofText) (path? outputOption)
      ((value? found maxWorkersOption).bind Integer.read?)
  else if name = "stats".toList then .stats (path? indexOption)
  else
    .query (path? indexOption) (values found queryOption) (isGiven found jsonOption)
      (path? metricsOption)

/-- The command line of a program, or why it ends before it begins. -/
def read (words : List Text) : Except Exit Arguments := do
  let found ← grammar.read words
  let refuse (error : UsageError) : Exit := .usage program error
  match found.operands with
  | none | some [] => .error (refuse (.missing ["command".toList]))
  | some (name :: rest) =>
    match commands.find? (·.1 == name) with
    | none =>
      let refusal := (choiceRefusal (commands.map Prod.fst) name).getD []
      .error (refuse (.refused ["command".toList] refusal))
    | some (_, behind) =>
      let within ← behind.read rest
      match found.leftOver ++ within.leftOver with
      | [] =>
        return ⟨value? found logLevelOption, isGiven found logJsonOption,
          (value? found traceExporterOption).bind fun t => (TraceExporter.ofName t).toOption,
          commandOf name within⟩
      | words => .error (refuse (.leftOver words))

end Arguments
end Concordance.CommandLine
