import Concordance.Files.Tree
import Concordance.Index.Occurrence
import Concordance.Text.Lines

/-!
Building an index from files. A document is named for its file. A file that cannot be read is left out
and reported; the rest is indexed all the same.
-/
namespace Concordance

namespace Sources

/-- What stands at a path, if anything does. A path that is too long is an error; any other one that leads
nowhere is none. -/
def look (tree : FileTree) (path : Path) : Except FileError (Option (Place × Node)) :=
  match tree.locate path with
  | .error .nameTooLong => .error ⟨.nameTooLong, path⟩
  | .ok (place, some node) => .ok (some (place, node))
  | _ => .ok none

/-- A path in a directory, if it leads to a file. -/
def fileAt (tree : FileTree) (path : Path) : Except FileError (List Path) := do
  match ← look tree path with
  | some (_, .file _) => return [path]
  | _ => return []

/-- Expands one source: a directory to its files, in order. -/
def expand (tree : FileTree) (source : Path) : Except FileError (List Path) := do
  match ← look tree source with
  | some (place, .directory) =>
    return (← ((tree.namesIn place).map source.child).mapM (fileAt tree)).flatten
  | _ => return [source]

/-- The files of sources, in the order of the sources. -/
def files (tree : FileTree) (sources : List Path) : Except FileError (List Path) :=
  return (← sources.mapM (expand tree)).flatten

end Sources

/-- Why no index can be built. -/
inductive BuildError where
  /-- There is no worker to read a file. -/
  | noWorkers
  /-- A path holds an empty byte, and so is no path. -/
  | notAPath
  deriving Repr, DecidableEq

def BuildError.message : BuildError → String
  | .noWorkers => "max_workers must be >= 1"
  | .notAPath => FileCause.emptyByte.describe.2

/-- The documents that were read, and the files that could not be, each in order. -/
structure Build where
  documents : List (DocId × Text)
  errors : List FileError
  deriving Repr, DecidableEq

namespace Build

/-- Nothing read. -/
def start : Build := ⟨[], []⟩

/-- The text of a document: octets that are no text are replaced. -/
def textOf (octets : List UInt8) : Text := Text.unifyNewlines (Utf8.decodeReplacing octets)

def file (tree : FileTree) (build : Build) (path : Path) : Build :=
  match tree.read path with
  | .ok octets => { build with documents := build.documents ++ [(path.name, textOf octets)] }
  | .error error => { build with errors := build.errors ++ [error] }

def ofFiles (tree : FileTree) (paths : List Path) : Build := paths.foldl (file tree) start

/-- The index of the documents that were read. -/
def index (build : Build) : Index := Index.ofDocuments build.documents

/-- An unreadable file with the reason. -/
def report (error : FileError) : Text := error.path.text ++ ": ".toList ++ error.message

/-- Whether a path can be the path of a file. -/
def isPath (path : Path) : Bool := !path.text.contains '\x00'

/-- The paths up to the first one that is none. -/
def usable (paths : List Path) : List Path := paths.takeWhile isPath

/-- Why files are not built into an index: there must be a worker, and every path must be one. -/
def refusal? (workers : Int) (paths : List Path) : Option BuildError :=
  if workers < 1 then some .noWorkers
  else if paths.all isPath then none
  else some .notAPath

end Build
end Concordance
