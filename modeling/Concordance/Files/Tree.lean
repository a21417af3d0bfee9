import Concordance.Assoc
import Concordance.Files.Path
import Concordance.Text.Quoted
import Concordance.Text.Utf8

/-!
A tree of files. A place is reached from the working directory name by name; `..` leads back. Every
operation either succeeds or names the cause of its failure and the path that was asked for.
-/
namespace Concordance

/-- Why a file operation failed. -/
inductive FileCause where
  | notFound
  | exists
  | notDirectory
  | isDirectory
  | nameTooLong
  | emptyByte
  deriving Repr, DecidableEq

/-- The number and the wording of a cause. The last one is refused before the file system is asked,
and so has no number. -/
def FileCause.describe : FileCause → Nat × String
  | .notFound => (2, "No such file or directory")
  | .exists => (17, "File exists")
  | .notDirectory => (20, "Not a directory")
  | .isDirectory => (21, "Is a directory")
  | .nameTooLong => (36, "File name too long")
  | .emptyByte => (0, "embedded null byte")

/-- A failed file operation. -/
structure FileError where
  cause : FileCause
  path : Path
  deriving Repr, DecidableEq

def FileError.message (error : FileError) : Text :=
  match error.cause with
  | .emptyByte => FileCause.emptyByte.describe.2.toList
  | cause =>
    "[Errno ".toList ++ Nat.toDigits 10 cause.describe.1 ++ "] ".toList ++
      cause.describe.2.toList ++ ": ".toList ++ Text.quoted error.path.text

/-- What stands at a place. -/
inductive Node where
  | file (bytes : List UInt8)
  | directory
  deriving Repr, DecidableEq

/-- The names that lead to a place from the working directory. `..` only stands in front, where it leads
above the working directory. -/
abbrev Place := List Text

namespace Place

/-- The name that leads back. -/
def back : Text := ['.', '.']

/-- The first place of an absolute path. -/
def root : Place := [['/']]

/-- Whether a place is the working directory or lies above it. -/
def isAbove (place : Place) : Bool := place.all (· = back)

/-- The spelling of a place. -/
def text (place : Place) : Text :=
  match place with
  | ['/'] :: names => '/' :: Text.join ['/'] names
  | names => Text.join ['/'] names

end Place

/-- A tree of files, by the places that hold something. The working directory, the root, and what
lies above the working directory always exist. -/
structure FileTree where
  nodes : Assoc Place Node

namespace FileTree

/-- The tree with nothing but the working directory. -/
def empty : FileTree := ⟨∅⟩

/-- What stands at a place. -/
def at? (tree : FileTree) (place : Place) : Option Node :=
  if place.isAbove || place = .root then some .directory else tree.nodes.get? place

/-- The longest name that a directory takes, in octets. -/
def nameLimit : Nat := 255

/-- The longest path that is looked up, in octets. -/
def pathLimit : Nat := 4095

/-- The place one name further on. -/
def enter (tree : FileTree) (place : Place) (name : Text) : Except FileCause Place :=
  match tree.at? place with
  | none => .error .notFound
  | some (.file _) => .error .notDirectory
  | some .directory =>
    if name = Place.back then
      if place.isAbove then .ok (place ++ [name])
      else if place = .root then .ok place
      else .ok place.dropLast
    else if nameLimit < (Utf8.encode name).length then .error .nameTooLong
    else .ok (place ++ [name])

/-- The place that names lead to, whether or not something stands there. -/
def walk (tree : FileTree) (place : Place) : List Text → Except FileCause Place
  | [] => .ok place
  | name :: names => do walk tree (← tree.enter place name) names

/-- Where a path begins. -/
def start (path : Path) : Place := if path.root.isEmpty then [] else .root

/-- Refuses the paths that no place can have. -/
def checkPath (path : Path) : Except FileCause Unit :=
  if path.text.contains '\x00' then .error .emptyByte
  else if pathLimit < (Utf8.encode path.text).length then .error .nameTooLong
  else .ok ()

/-- The place of a path, and what stands there. -/
def locate (tree : FileTree) (path : Path) : Except FileCause (Place × Option Node) := do
  checkPath path
  let place ← tree.walk (start path) path.parts
  return (place, tree.at? place)

/-- Whether a path leads to a directory. -/
def isDirectory (tree : FileTree) (path : Path) : Bool :=
  match tree.locate path with
  | .ok (_, some .directory) => true
  | _ => false

def read (tree : FileTree) (path : Path) : Except FileError (List UInt8) :=
  match tree.locate path with
  | .ok (_, some (.file bytes)) => .ok bytes
  | .ok (_, some .directory) => .error ⟨.isDirectory, path⟩
  | .ok (_, none) => .error ⟨.notFound, path⟩
  | .error cause => .error ⟨cause, path⟩

/-- The names of what stands directly in a directory, in code point order. -/
def namesIn (tree : FileTree) (place : Place) : List Text :=
  Text.sorted (tree.nodes.keys.filterMap fun other =>
    match other.getLast? with
    | some name => if other.dropLast = place then some name else none
    | none => none)

/-- Puts something at a place. -/
def set (tree : FileTree) (place : Place) (node : Node) : FileTree := ⟨tree.nodes.put place node⟩

/-- Makes one directory, whose parent must exist. -/
def makeDirectory (tree : FileTree) (path : Path) : Except FileCause FileTree := do
  checkPath path
  match path.parts.getLast? with
  | none => .error .exists
  | some name =>
    let parent ← tree.walk (start path) path.parts.dropLast
    let place ← tree.enter parent name
    if name = Place.back || (tree.at? place).isSome then .error .exists
    else .ok (tree.set place .directory)

/-- Makes a directory where none is yet; anything else in its place is an error. -/
def ensureDirectory (tree : FileTree) (path : Path) : Except FileError FileTree :=
  match tree.makeDirectory path with
  | .ok made => .ok made
  | .error cause =>
    if cause != .notFound && cause != .emptyByte && tree.isDirectory path then .ok tree
    else .error ⟨cause, path⟩

/-- What several steps come to: the error, if one of them failed, and the tree that they leave. What was done
before the failure stays. -/
structure Outcome where
  failure : Option FileError
  tree : FileTree

namespace Outcome

/-- One step, which is done as a whole or not at all. -/
def ofStep (tree : FileTree) : Except FileError FileTree → Outcome
  | .ok changed => ⟨none, changed⟩
  | .error error => ⟨some error, tree⟩

/-- Goes on with one more step, unless there was a failure. -/
def andThen (outcome : Outcome) (step : FileTree → Except FileError FileTree) : Outcome :=
  match outcome.failure with
  | none => ofStep outcome.tree (step outcome.tree)
  | some _ => outcome

/-- The tree, if nothing failed. -/
def result (outcome : Outcome) : Except FileError FileTree :=
  match outcome.failure with
  | none => .ok outcome.tree
  | some error => .error error

/-- The tree that is left is the one that a success gives. -/
theorem tree_of_result {outcome : Outcome} {changed : FileTree} (ok : outcome.result = .ok changed) :
    outcome.tree = changed := by
  obtain ⟨failure, tree⟩ := outcome
  cases failure with
  | none => exact Except.ok.inj ok
  | some error => cases ok

theorem result_ofStep (tree : FileTree) (step : Except FileError FileTree) :
    (ofStep tree step).result = step := by
  cases step <;> rfl

theorem result_andThen (outcome : Outcome) (step : FileTree → Except FileError FileTree) :
    (outcome.andThen step).result = outcome.result >>= step := by
  obtain ⟨failure, tree⟩ := outcome
  cases failure with
  | none => exact result_ofStep tree (step tree)
  | some error => rfl

end Outcome

/-- Makes a directory and, where they are missing, the ones that lead to it. -/
def makeDirectories (tree : FileTree) (path : Path) : Outcome :=
  match tree.makeDirectory path with
  | .error .notFound =>
    if _rootless : path.parts = [] then ⟨some ⟨.notFound, path⟩, tree⟩
    else (makeDirectories tree path.parent).andThen (·.ensureDirectory path)
  | _ => .ofStep tree (tree.ensureDirectory path)
termination_by path.parts.length
decreasing_by
  have : path.parts.length ≠ 0 := by simpa using _rootless
  simp only [Path.parent, List.length_dropLast]
  omega

/-- The tree with a directory and the ones that lead to it. -/
def ensureDirectories (tree : FileTree) (path : Path) : Except FileError FileTree :=
  (tree.makeDirectories path).result

/-- Writes a file, whose directory must exist; what it held before is lost. -/
def write (tree : FileTree) (path : Path) (bytes : List UInt8) : Except FileError FileTree :=
  match tree.locate path with
  | .error cause => .error ⟨cause, path⟩
  | .ok (_, some .directory) => .error ⟨.isDirectory, path⟩
  | .ok (place, _) =>
    match tree.at? place.dropLast with
    | some .directory => .ok (tree.set place (.file bytes))
    | _ => .error ⟨.notFound, path⟩

/-- Makes the directories that lead to a file, and writes it. -/
def saveBelow (tree : FileTree) (path : Path) (bytes : List UInt8) : Outcome :=
  (tree.makeDirectories path.parent).andThen (·.write path bytes)

/-- The tree with a file and the directories that lead to it. -/
def writeBelow (tree : FileTree) (path : Path) (bytes : List UInt8) : Except FileError FileTree :=
  (tree.saveBelow path bytes).result

/-- A file is written where its directories can be made. -/
theorem writeBelow_eq (tree : FileTree) (path : Path) (bytes : List UInt8) :
    tree.writeBelow path bytes = tree.ensureDirectories path.parent >>= (·.write path bytes) :=
  Outcome.result_andThen _ _

/-- The files of a tree that another one does not have, or has with other octets; by their spelling, in
code point order. -/
def changes (before after : FileTree) : List (Text × List UInt8) :=
  let changed := after.nodes.entries.filterMap fun (place, node) =>
    match node with
    | .directory => none
    | .file bytes => if before.at? place = some node then none else some (place.text, bytes)
  changed.mergeSort fun first second => Text.atMost first.1 second.1

end FileTree
end Concordance
