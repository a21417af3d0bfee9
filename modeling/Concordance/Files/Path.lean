import Concordance.Text.Basic

/-!
Paths. A path is a root, empty for one that starts at the working directory, and a list of names; empty
names and names for the directory itself are dropped on reading, so a path has one spelling.
-/
namespace Concordance

/-- A path by its root and the names on the way. -/
structure Path where
  root : Text
  parts : List Text
  deriving Repr, DecidableEq, Inhabited

namespace Path

/-- The number of slashes at the beginning that make a root: two make another root than one, and
more are the same as one. -/
def rootOf (t : Text) : Text :=
  match (t.takeWhile (· = '/')).length with
  | 0 => []
  | 2 => "//".toList
  | _ => "/".toList

/-- The path that a text spells. -/
def ofText (t : Text) : Path :=
  ⟨rootOf t, (Text.splitOn '/' t).filter fun part => !part.isEmpty && part != ['.']⟩

/-- The spelling of a path; the working directory itself is a single dot. -/
def text (path : Path) : Text :=
  if path.root.isEmpty && path.parts.isEmpty then ['.']
  else path.root ++ Text.join ['/'] path.parts

/-- The last name of a path, empty if it has none. -/
def name (path : Path) : Text := path.parts.getLastD []

def parent (path : Path) : Path := ⟨path.root, path.parts.dropLast⟩

def child (path : Path) (name : Text) : Path := ⟨path.root, path.parts ++ [name]⟩

end Path
end Concordance
