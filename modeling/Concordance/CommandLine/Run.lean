import Concordance.CommandLine.Arguments
import Concordance.Query.Lines
import Concordance.Report.Answer
import Concordance.Report.Table
import Concordance.Settings.Basic
import Concordance.Telemetry.Search

/-!
Runs of the program. A run starts from the command line, the environment, a tree of files and the input,
and ends with a status, output, log, and a changed tree. Errors in the input are logged and give status
one; a few errors, most of them of the file system, end a run without a status.

A run is taken to have all the memory and all the stack that it needs. Its arguments, its environment, its
input and the names in the tree are texts, so octets that spell no text do not come in here; nothing in the
environment counts but the settings; and everything in the tree may be read and written, and all that is
written to the output gets there.
-/
namespace Concordance.CommandLine

/-- What a run starts from. -/
structure Request where
  arguments : List Text
  environment : List (Text × Text)
  tree : FileTree
  input : Text
  /-- Whether someone is there to be prompted. -/
  interactive : Bool
  /-- What puts metrics into files; it comes from outside of the program. -/
  writer : MetricsWriter := .replacing ".1.1".toList

/-- Errors that end a run without a status. -/
inductive Abort where
  | file (error : FileError)
  | level (error : LevelError)
  | undecodable (fault : Utf8.Fault)
  | number (error : NumberError)
  | table (error : Report.TableError)
  deriving Repr, DecidableEq

/-- Errors that a command reports and that give status one, and those that abort the run. -/
inductive CommandError where
  | reported (reason : Text)
  | aborted (abort : Abort)
  deriving Repr, DecidableEq

/-- What a command changes: the tree, and what was written to the output. -/
structure Effects where
  tree : FileTree
  output : Text

/-- The work of a command. -/
abbrev Work := ExceptT CommandError (StateT Effects Monitored)

namespace Work

/-- Monitored work as a part of a command. -/
def monitored {α : Type} (work : Monitored α) : Work α := liftM work

def write (t : Text) : Work Unit :=
  modifyThe Effects fun effects => { effects with output := effects.output ++ t }

def writeLine (t : Text) : Work Unit := write (t ++ ['\n'])

/-- Ends the command with a reason to report. -/
def report {α : Type} (reason : Text) : Work α := throw (.reported reason)

/-- A file error: one about a path that is none is reported, any other aborts the run. -/
def ofFileError (error : FileError) : CommandError :=
  match error.cause with
  | .emptyByte => .reported error.message
  | _ => .aborted (.file error)

/-- A number error: the logarithm of zero is reported, any other one aborts the run. -/
def ofNumberError (error : NumberError) : CommandError :=
  match error with
  | .logarithmOfZero => .reported error.message.toList
  | _ => .aborted (.number error)

/-- A part of a command that may fail. -/
def attempt {ε α : Type} (failure : ε → CommandError) : Except ε α → Work α
  | .ok a => pure a
  | .error error => throw (failure error)

/-- A change of the tree that may fail. The tree is left as the change leaves it, also where it fails. -/
def change (f : FileTree → FileTree.Outcome) : Work Unit := do
  let outcome := f (← getThe Effects).tree
  modifyThe Effects fun effects => { effects with tree := outcome.tree }
  match outcome.failure with
  | none => return
  | some error => throw (ofFileError error)

end Work

open Work

def loadIndex (path : Path) : Work Index := do
  let loading := Loading.ofFile (← getThe Effects).tree path
  monitored (Monitored.noteAll (loading.notices path))
  attempt (.reported ·.message) loading.result

/-- Builds an index of files. -/
def buildIndex (paths : List Path) (workers : Int) : Work Build := do
  let (notices, result) := Build.attempt (← getThe Effects).tree workers paths
  monitored (Monitored.noteAll notices)
  attempt (.reported ·.message.toList) result

/-- The status of a run: zero for success. -/
def statusOf (success : Bool) : Nat := if success then 0 else 1

/-- Builds an index and writes it. -/
def build (sources : List Path) (output : Path) (workers : Int) : Work Nat := do
  if workers < 1 then report "--max-workers must be >= 1".toList
  let paths ← attempt ofFileError (Sources.files (← getThe Effects).tree sources)
  if paths.isEmpty then
    monitored (Monitored.note (.noDocuments sources))
    return 1
  let build ← buildIndex paths workers
  let index := build.index
  change fun tree => tree.saveBelow output index.octets
  monitored (Monitored.note (.wrote index.size output))
  writeLine ("Indexed ".toList ++ Integer.decimalNat build.documents.length ++
    " document(s), ".toList ++ Integer.decimalNat index.size ++ " term(s) -> ".toList ++
    output.text)
  return statusOf build.errors.isEmpty

def stats (path : Path) (widths : Report.Widths) : Work Nat := do
  let index ← loadIndex path
  let statistics := TermStatistics.ofIndex index
  let docs := index.documents.members
  attempt (.aborted ∘ .table) (widths.check docs)
  writeLine (Report.frequencies widths statistics docs)
  writeLine (Report.rarities statistics)
  writeLine (Report.weights widths statistics docs)
  return 0

/-- What stands between answers. -/
def separator : Text := List.replicate 40 '-'

def greeting : Text := "Enter phrase query, or press CTRL + D to exit.".toList

def prompt : Text := "Enter query: ".toList

def answer (engine : Engine) (json : Bool) (places : Nat) (query : Text) : Work Unit := do
  let outcome ← attempt ofNumberError (← monitored (Monitored.search engine query))
  if json then writeLine (Report.answerJson query outcome).render
  else
    writeLine (Report.answer places outcome.documents)
    writeLine separator

/-- Goes along with the reading of the input: a prompt before each reading of a line, and an answer to each
query. -/
def answerEvent (engine : Engine) (json : Bool) (places : Nat) (prompted : Bool) :
    QueryLines.Event → Work Unit
  | .asked => if prompted then write prompt else pure ()
  | .query query => answer engine json places query

/-- Answers the queries of the input. -/
def answerInput (engine : Engine) (json : Bool) (places : Nat) (prompted : Bool) (input : Text) :
    Work Unit := do
  if prompted then writeLine greeting
  (QueryLines.events input).forM (answerEvent engine json places prompted)

/-- Writes the metrics. A failure is logged. -/
def writeMetrics (writer : MetricsWriter) (path : Path) : Work Nat := do
  let (fault, tree) := (← getThe Telemetry).metrics.save writer path (← getThe Effects).tree
  modifyThe Effects fun effects => { effects with tree := tree }
  match fault with
  | none =>
    monitored (Monitored.note (.metricsWritten path))
    return 0
  | some (.refused wording) =>
    monitored (Monitored.note (.metricsUnwritable path wording))
    return 1
  | some (.noPath wording) => report wording

/-- Answers queries from the command line, or else from the input. -/
def query (request : Request) (settings : Settings) (index : Path) (queries : List Text)
    (json : Bool) (metrics : Option Path) : Work Nat := do
  let engine ← monitored (Monitored.engine (← loadIndex index))
  let places := settings.scorePrecision.toNat
  if queries.isEmpty then
    answerInput engine json places (!json && request.interactive) request.input
  else queries.forM (answer engine json places)
  match metrics with
  | some path => writeMetrics request.writer path
  | none => return 0

def command (request : Request) (settings : Settings) : Command → Work Nat
  | .build sources output maxWorkers =>
    build sources (output.getD settings.indexPath) (maxWorkers.getD settings.buildMaxWorkers)
  | .stats index =>
    stats (index.getD settings.indexPath) ⟨settings.termColumnWidth, settings.columnWidth⟩
  | .query index queries json metricsOut =>
    query request settings (index.getD settings.indexPath) queries json
      (metricsOut.or settings.metricsPath)

/-- Runs a command; what it reports is logged. -/
def status (request : Request) (settings : Settings) (asked : Command) : Work Nat :=
  tryCatch (command request settings asked) fun error =>
    match error with
    | .reported reason => do
      monitored (Monitored.note (.failed reason))
      return 1
    | aborted => throw aborted

/-- Sets logging up. -/
def configureLogging (arguments : Arguments) (settings : Settings) : Except LevelError Telemetry :=
  let threshold :=
    match arguments.logLevel with
    | some (c :: name) => Level.threshold (c :: name)
    | _ => .ok settings.logLevel.rank
  let layout : LineLayout := if arguments.logJson || settings.logJson then .json else .plain
  threshold.map fun threshold => { Telemetry.fresh with threshold := threshold, layout := layout }

def configureTracing (arguments : Arguments) (settings : Settings) : Monitored Unit := do
  if settings.tracingEnabled then
    Monitored.initTracing settings.serviceName []
    let _ ← Monitored.exportTo (arguments.traceExporter.getD settings.traceExporter)

/-- What a run leaves behind. -/
structure Finish where
  status : Except Abort Nat
  output : Text
  tree : FileTree
  telemetry : Telemetry

/-- How a run ends. -/
inductive Ending where
  /-- The command line asks for nothing that can be done. -/
  | exit (exit : Exit)
  /-- The settings cannot be used. -/
  | invalid (faults : Nat)
  /-- The run aborts before anything is logged. -/
  | aborted (abort : Abort)
  | finished (finish : Finish)

/-- The line about settings that cannot be used. -/
def invalidText (faults : Nat) : Text :=
  "Invalid configuration: ".toList ++ Integer.decimalNat faults ++
    (if faults = 1 then " validation error".toList else " validation errors".toList) ++
    " for Settings".toList

/-- Runs the program with its arguments and settings. -/
def finish (request : Request) (arguments : Arguments) (settings : Settings)
    (telemetry : Telemetry) : Finish :=
  let work : Work Nat := do
    monitored (configureTracing arguments settings)
    status request settings arguments.command
  let ((result, effects), telemetry) := (work.run.run ⟨request.tree, []⟩).run telemetry
  let result := match result with
    | .ok status => .ok status
    | .error (.aborted abort) => .error abort
    | .error (.reported _) => .ok 1
  ⟨result, effects.output, effects.tree, telemetry⟩

def run (request : Request) : Ending :=
  match Arguments.read request.arguments with
  | .error exit => .exit exit
  | .ok arguments =>
    match Settings.load request.environment request.tree with
    | .error (.values faults) => .invalid faults.length
    | .error (.unknownLevel _) => .invalid 1
    | .error (.undecodable fault) => .aborted (.undecodable fault)
    | .ok settings =>
      match configureLogging arguments settings with
      | .error error => .aborted (.level error)
      | .ok telemetry => .finished (finish request arguments settings telemetry)

end Concordance.CommandLine
