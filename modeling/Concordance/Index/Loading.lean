import Concordance.Files.Tree
import Concordance.Index.Format

/-!
Index files. An index file is read strictly: octets that are no text make it unreadable, though the lines
that were complete by then have been looked at.
-/
namespace Concordance

/-- Why an index file cannot be loaded. -/
inductive LoadError where
  | notFound (path : Path)
  | unreadable (path : Path) (cause : FileCause)
  | undecodable (fault : Utf8.Fault)
  /-- The path holds an empty byte, and so is no path. -/
  | notAPath
  deriving Repr, DecidableEq

def LoadError.message : LoadError → Text
  | .notFound path => "Positional index not found: ".toList ++ path.text
  | .unreadable path cause =>
    "Cannot read positional index ".toList ++ path.text ++ ": ".toList ++ cause.describe.2.toList
  | .undecodable fault => fault.message
  | .notAPath => FileCause.emptyByte.describe.2.toList

/-- A load error for a file that cannot be opened. -/
def LoadError.ofFile (error : FileError) : LoadError :=
  match error.cause with
  | .notFound => .notFound error.path
  | .emptyByte => .notAPath
  | cause => .unreadable error.path cause

/-- What became of an index file: how its lines were read, and the index or why there is none. -/
structure Loading where
  reading : Reading
  result : Except LoadError Index

namespace Loading

/-- The lines that are complete in the beginning of a file. A carriage return at its end may be half
of a line end, and so completes nothing. -/
def completeLines (t : Text) : List Text :=
  let t := if t.getLast? == some '\r' then t.dropLast else t
  (Text.linesKeepingEnds (Text.unifyNewlines t)).filter fun line => line.getLast? == some '\n'

/-- Loads the contents of an index file. -/
def ofOctets (octets : List UInt8) : Loading :=
  let file := Utf8.read octets
  match file.fault with
  | some fault => ⟨Reading.ofLines (completeLines file.text), .error (.undecodable fault)⟩
  | none =>
    let reading := Reading.ofLines (Text.linesKeepingEnds (Text.unifyNewlines file.text))
    ⟨reading, .ok reading.index⟩

def ofFile (tree : FileTree) (path : Path) : Loading :=
  match tree.read path with
  | .error error => ⟨.start, .error (.ofFile error)⟩
  | .ok octets => ofOctets octets

end Loading

namespace Index

def load (tree : FileTree) (path : Path) : Except LoadError Index := (Loading.ofFile tree path).result

def octets (index : Index) : List UInt8 := Utf8.encode index.write

/-- The tree with an index written to a file. -/
def save (index : Index) (tree : FileTree) (path : Path) : Except FileError FileTree :=
  tree.writeBelow path index.octets

end Index
end Concordance
