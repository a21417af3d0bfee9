import Concordance.DocSet
import Concordance.Index.Positions
import Concordance.Number.Integer
import Concordance.Text.CharClass

/-!
Entries of an index line. An entry names a document and lists positions: `name: 1,2,5`. The name is the
first run of at least two characters that ends in a colon and has another run after it; the positions
are what stands from that next run to the end of its line.
-/
namespace Concordance

/-- A document and the positions of a term in it. -/
structure Entry where
  doc : DocId
  positions : List Int
  deriving Repr, DecidableEq

namespace Entry

/-- Whether a run names a document: something before a final colon. -/
def isName (run : Text) : Bool := 2 ≤ run.length && run.getLast? == some ':'

/-- The name of the document, and what follows it up to the end of the line. -/
def cut? (t : Text) : Option (Text × Text) :=
  match _atWord : t.dropWhile Text.isBlank with
  | [] => none
  | c :: rest =>
    let run := c :: rest.takeWhile Text.isInk
    let after := rest.dropWhile Text.isInk
    let next := after.dropWhile Text.isBlank
    if isName run && !next.isEmpty then some (run.dropLast, next.takeWhile (· != '\n'))
    else cut? after
termination_by t.length
decreasing_by
  have shorter : (rest.dropWhile Text.isInk).length ≤ rest.length :=
    (List.dropWhile_suffix Text.isInk).length_le
  have inside : (t.dropWhile Text.isBlank).length ≤ t.length :=
    (List.dropWhile_suffix Text.isBlank).length_le
  rw [_atWord] at inside
  simp only [List.length_cons] at inside
  omega

/-- The pieces between commas; blanks after a comma belong to the comma. -/
def pieces (t : Text) : List Text :=
  match Text.splitOn ',' t with
  | [] => []
  | first :: rest => first :: rest.map (·.dropWhile Text.isBlank)

/-- The positions that a list of pieces spells, if each is an integer that is not negative. -/
def positions? (raw : Text) : Option (List Int) :=
  match (pieces (Text.trim raw)).mapM Integer.read? with
  | none => none
  | some values => if values.any (· < 0) then none else some (Positions.ofList values)

/-- Reads an entry; anything that is not one has no value. -/
def read? (segment : Text) : Option Entry :=
  match cut? (Text.trim segment) with
  | none => none
  | some (doc, raw) => (positions? raw).map (Entry.mk doc)

def write (doc : DocId) (positions : List Int) : Text :=
  doc ++ ": ".toList ++ Text.join [','] (positions.map Integer.decimal)

end Entry
end Concordance
