import Concordance.Query.Operator
import Concordance.Text.CharClass

/-!
Queries as trees. A query is split at the first occurrence of the first operator, in the order of
priority, that it holds; both sides are trimmed and split in turn. A query without an operator is a
phrase. There is no precedence beyond that.
-/
namespace Concordance

/-- A phrase, or two queries joined by an operator. -/
inductive Query where
  | phrase (text : Text)
  | node (operator : Operator) (left right : Query)
  deriving Repr, DecidableEq

namespace Query

/-- The first operator in the order of priority that a query holds. -/
def findOperator? (query : Text) : Option Operator :=
  Operator.priority.find? fun operator => (Text.cutAt? operator.delimited query).isSome

/-- What stands before and after the first occurrence of an operator. -/
def splitAt (query : Text) (operator : Operator) : Except QueryError (Text × Text) :=
  match Text.cutAt? operator.delimited query with
  | some sides => .ok sides
  | none => .error (.operatorAbsent operator query)

/-- The operator at which a query is split, with the two sides. -/
def split? (query : Text) : Option (Operator × Text × Text) :=
  Operator.priority.findSome? fun operator =>
    (Text.cutAt? operator.delimited query).map fun sides => (operator, sides)

theorem length_trim_le (t : Text) : (Text.trim t).length ≤ t.length := by
  unfold Text.trim Text.dropEndWhile
  have first := (List.dropWhile_suffix (l := t) Text.isBlank).length_le
  have second := (List.dropWhile_suffix (l := (t.dropWhile Text.isBlank).reverse)
    Text.isBlank).length_le
  simp only [List.length_reverse] at second ⊢
  omega

theorem delimited_ne_nil (operator : Operator) : operator.delimited ≠ [] := by
  simp [Operator.delimited]

/-- Both sides of a split are shorter than the query. -/
theorem length_split? {query left right : Text} {operator : Operator}
    (found : split? query = some (operator, left, right)) :
    left.length < query.length ∧ right.length < query.length := by
  obtain ⟨other, _, mapped⟩ := List.exists_of_findSome?_eq_some found
  obtain ⟨⟨before, after⟩, cut, same⟩ := Option.map_eq_some_iff.mp mapped
  simp only [Prod.mk.injEq] at same
  obtain ⟨rfl, rfl, rfl⟩ := same
  have whole := congrArg List.length (Text.cutAt?_append cut)
  have some : 0 < other.delimited.length := List.length_pos_iff.mpr (delimited_ne_nil other)
  simp only [List.length_append] at whole
  omega

def parse (query : Text) : Query :=
  match _found : split? query with
  | none => phrase (Text.trim query)
  | some (operator, left, right) =>
    node operator (parse (Text.trim left)) (parse (Text.trim right))
termination_by query.length
decreasing_by
  · exact Nat.lt_of_le_of_lt (length_trim_le left) (length_split? _found).1
  · exact Nat.lt_of_le_of_lt (length_trim_le right) (length_split? _found).2

/-- Whether a query is nothing but an operator's keyword. -/
def isBareOperator (query : Text) : Bool :=
  Operator.priority.any fun operator => Text.trim query == operator.keyword

/-- A query as it is displayed. -/
def display : Query → Text
  | phrase t => "Phrase(".toList ++ Text.quoted t ++ [')']
  | node operator left right =>
    operator.name ++ '(' :: left.display ++ ", ".toList ++ right.display ++ [')']

end Query
end Concordance
