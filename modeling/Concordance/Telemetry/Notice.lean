import Concordance.Engine
import Concordance.Index.Building
import Concordance.Index.Loading
import Concordance.Telemetry.Level

/-!
What the program reports about its work. Each notice has a level, the logger that reports it, and a
wording.
-/
namespace Concordance

/-- A thing worth reporting. -/
inductive Notice where
  | malformedEntry (line : Nat) (segment : Text)
  | skipped (shortLines entries : Nat)
  | loaded (path : Path) (terms documents : Nat)
  | wrote (terms : Nat) (path : Path)
  | unreadable (error : FileError)
  | indexed (documents terms errors : Nat)
  | ready (index : Text)
  | rejected (query : Text)
  | answered (query : Text) (tree : Query) (documents : Nat)
  | tracing (service : Text)
  | exporting (exporter : Text)
  | noDocuments (sources : List Path)
  | failed (reason : Text)
  | metricsWritten (path : Path)
  | metricsUnwritable (path : Path) (reason : Text)
  deriving Repr, DecidableEq

namespace Notice

def level : Notice → Level
  | malformedEntry _ _ => .debug
  | skipped _ _ => .info
  | loaded _ _ _ => .info
  | wrote _ _ => .info
  | unreadable _ => .warning
  | indexed _ _ _ => .info
  | ready _ => .debug
  | rejected _ => .info
  | answered _ _ _ => .debug
  | tracing _ => .debug
  | exporting _ => .info
  | noDocuments _ => .error
  | failed _ => .error
  | metricsWritten _ => .info
  | metricsUnwritable _ _ => .error

def formatLogger : String := "positional_search.search.index_format"

def builderLogger : String := "positional_search.search.builder"

def engineLogger : String := "positional_search.search.engine"

def tracingLogger : String := "positional_search.observability.tracing"

def commandLogger : String := "positional_search.cli"

def logger : Notice → Text
  | malformedEntry _ _ | skipped _ _ | loaded _ _ _ | wrote _ _ => formatLogger.toList
  | unreadable _ | indexed _ _ _ => builderLogger.toList
  | ready _ | rejected _ | answered _ _ _ => engineLogger.toList
  | tracing _ | exporting _ => tracingLogger.toList
  | noDocuments _ | failed _ | metricsWritten _ | metricsUnwritable _ _ => commandLogger.toList

def message : Notice → Text
  | malformedEntry line segment =>
    "Skipping malformed entry on line ".toList ++ Integer.decimalNat line ++ ": ".toList ++
      Text.quoted segment
  | skipped shortLines entries =>
    "Skipped ".toList ++ Integer.decimalNat shortLines ++ " short line(s) and ".toList ++
      Integer.decimalNat entries ++ " malformed entr(ies) while reading index".toList
  | loaded path terms documents =>
    "Loaded positional index from ".toList ++ path.text ++ ": ".toList ++
      Integer.decimalNat terms ++ " terms, ".toList ++ Integer.decimalNat documents ++
      " documents".toList
  | wrote terms path =>
    "Wrote ".toList ++ Integer.decimalNat terms ++ " term(s) to ".toList ++ path.text
  | unreadable error =>
    "Skipping unreadable document ".toList ++ error.path.text ++ ": ".toList ++ error.message
  | indexed documents terms errors =>
    "Indexed ".toList ++ Integer.decimalNat documents ++ " document(s) into ".toList ++
      Integer.decimalNat terms ++ " term(s) (".toList ++ Integer.decimalNat errors ++
      " error(s))".toList
  | ready index => "Query engine ready: ".toList ++ index
  | rejected query => "Rejected bare operator query: ".toList ++ Text.quoted query
  | answered query tree documents =>
    "Query ".toList ++ Text.quoted query ++ " parsed as ".toList ++ tree.display ++
      " matched ".toList ++ Integer.decimalNat documents ++ " document(s)".toList
  | tracing service => "Tracing initialized for service: ".toList ++ service
  | exporting exporter => "Trace export enabled (".toList ++ exporter ++ [')']
  | noDocuments sources =>
    "No documents found in ".toList ++ Text.join ", ".toList (sources.map Path.text)
  | failed reason => reason
  | metricsWritten path => "Wrote query metrics to ".toList ++ path.text
  | metricsUnwritable path reason =>
    "Cannot write metrics to ".toList ++ path.text ++ ": ".toList ++ reason

end Notice

/-- The notices about entries that were skipped one by one. -/
def Reading.entryNotices (reading : Reading) : List Notice :=
  reading.malformed.map fun (line, segment) => .malformedEntry line segment

/-- The notice about everything that was skipped, if anything was. -/
def Reading.summaryNotices (reading : Reading) : List Notice :=
  if reading.shortLines = 0 ∧ reading.malformed = [] then []
  else [.skipped reading.shortLines reading.malformed.length]

/-- The notices about lines that were read to the end. -/
def Reading.notices (reading : Reading) : List Notice := reading.entryNotices ++ reading.summaryNotices

/-- The notices about an index file. -/
def Loading.notices (loading : Loading) (path : Path) : List Notice :=
  match loading.result with
  | .error _ => loading.reading.entryNotices
  | .ok index => loading.reading.notices ++ [.loaded path index.size index.documentCount]

/-- The notices about files that could not be read. -/
def Build.fileNotices (build : Build) : List Notice := build.errors.map .unreadable

/-- The notices about a build that was finished. -/
def Build.notices (build : Build) : List Notice :=
  build.fileNotices ++ [.indexed build.documents.length build.index.size build.errors.length]

/-- Builds an index of files, with the notices. Without workers nothing is read at all; a path that is none
ends the build where it stands. -/
def Build.attempt (tree : FileTree) (workers : Int) (paths : List Path) :
    List Notice × Except BuildError Build :=
  match Build.refusal? workers paths with
  | none =>
    let build := Build.ofFiles tree paths
    (build.notices, .ok build)
  | some .noWorkers => ([], .error .noWorkers)
  | some .notAPath => ((Build.ofFiles tree (Build.usable paths)).fileNotices, .error .notAPath)

end Concordance
