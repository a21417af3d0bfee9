import Mathlib.Data.List.Basic
import Concordance.Proofs.TreeShape
import Concordance.Query.Evaluation

/-!
Blanks around a query. An operator stands between two spaces, and at the edge of a query one of these may be
all that is left of a side: then the blanks there make an operator out of a word, and without them the query is
another one. Around any other query blanks mean nothing.
-/
namespace Concordance.OuterBlanks
open TextCuts TreeShape

/-- A query that has something on both sides of the operator at which it is split, if it is split. -/
def WholeOperands (query : Text) : Prop :=
  ∀ found ∈ Query.split? query, Text.trim found.2.1 ≠ [] ∧ Text.trim found.2.2 ≠ []

instance (query : Text) : Decidable (WholeOperands query) :=
  inferInstanceAs (Decidable (∀ found ∈ Query.split? query, _))

variable {query before after : Text} {operator : Operator}

/-! ## Trimming around an operator -/

/-- Where both ends of a text have something that is not blank, trimming leaves what is between them alone. -/
private theorem trim_around (onLeft : Text.trim before ≠ []) (onRight : Text.trim after ≠ [])
    (middle : Text) : ∃ front left right back, before = front ++ left ∧ after = right ++ back ∧
      Text.trim (before ++ middle ++ after) = left ++ middle ++ right ∧
      Text.trim left = Text.trim before ∧ Text.trim right = Text.trim after := by
  obtain ⟨front, inner, frontBlank, innerBlank, leftWhole⟩ := trim_between before
  obtain ⟨outer, back, outerBlank, backBlank, rightWhole⟩ := trim_between after
  have whole : before ++ middle ++ after =
      front ++ ((Text.trim before ++ inner ++ middle ++ (outer ++ Text.trim after)) ++ back) := by
    calc before ++ middle ++ after
      _ = (front ++ Text.trim before ++ inner) ++ middle ++ (outer ++ Text.trim after ++ back) := by
        rw [← leftWhole, ← rightWhole]
      _ = _ := by simp only [List.append_assoc]
  refine ⟨front, Text.trim before ++ inner, outer ++ Text.trim after, back, ?_, rightWhole, ?_,
    ?_, ?_⟩
  · rw [← List.append_assoc, ← leftWhole]
  · rw [whole, trim_margin frontBlank, trim_append backBlank]
    apply trim_of_ends
    · rw [List.append_assoc, List.append_assoc, List.head?_append_of_ne_nil _ onLeft]
      exact trim_head
    · rw [← List.append_assoc, List.getLast?_append_of_ne_nil _ onRight]
      exact trim_last
  · rw [trim_append innerBlank, trim_trim]
  · rw [trim_margin outerBlank, trim_trim]

/-- A query with whole sides is split at the same place when it is trimmed. -/
private theorem split_trim (found : Query.split? query = some (operator, before, after))
    (onLeft : Text.trim before ≠ []) (onRight : Text.trim after ≠ []) :
    ∃ left right, Query.split? (Text.trim query) = some (operator, left, right) ∧
      Text.trim left = Text.trim before ∧ Text.trim right = Text.trim after := by
  obtain ⟨front, left, right, back, rfl, rfl, trimmed, sameLeft, sameRight⟩ :=
    trim_around onLeft onRight operator.delimited
  obtain ⟨earlier, other, later, order, here, missed⟩ := List.findSome?_eq_some_iff.mp found
  obtain ⟨sides, cut, same⟩ := Option.map_eq_some_iff.mp here
  cases same
  have whole := Text.cutAt?_append cut
  rw [whole] at trimmed
  have regroup : query = front ++ Text.trim query ++ back := by
    rw [trimmed, ← whole]
    simp only [List.append_assoc]
  rw [regroup] at cut
  have there := cut_part (Query.delimited_ne_nil operator) cut
  refine ⟨left, right, ?_, sameLeft, sameRight⟩
  refine List.findSome?_eq_some_iff.mpr ⟨earlier, operator, later, order, by rw [there]; rfl, ?_⟩
  intro other member
  have absent := Option.map_eq_none_iff.mp (missed other member)
  rw [Option.map_eq_none_iff, cut_none_iff]
  exact fun occurs => cut_none_iff.mp absent (occurs.trans (trim_is_part query))

/-- A trimmed query has something on both sides: its ends are not the spaces of an operator. -/
private theorem whole_trimmed (query : Text) : WholeOperands (Text.trim query) := by
  intro ⟨operator, before, after⟩ found
  have whole := Text.cutAt?_append (split_cut found).2
  constructor
  · intro none
    have blank := blank_of_trim_nil none
    cases before with
    | nil =>
      have ink := trim_head ' ' (by rw [← whole]; rfl)
      cases space_is_blank.symm.trans ink
    | cons c before =>
      have ink := trim_head c (by rw [← whole]; rfl)
      cases (blank c List.mem_cons_self).symm.trans ink
  · intro none
    have blank : ∀ c ∈ ' ' :: after, Text.isBlank c = true :=
      List.forall_mem_cons.mpr ⟨space_is_blank, blank_of_trim_nil none⟩
    have shape : (before ++ ' ' :: operator.keyword) ++ ' ' :: after = Text.trim query := by
      rw [← whole]
      simp [Operator.delimited]
    have last := List.getLast?_eq_some_getLast (List.cons_ne_nil ' ' after)
    have ink := trim_last _ (by
      rw [← shape]
      exact List.mem_getLast?_append_of_mem_getLast? last)
    cases (blank _ (List.getLast_mem _)).symm.trans ink

/-! ## Trees -/

private theorem parse_nil : Query.parse [] = .phrase [] := parse_whole rfl

private theorem blank_of_parse (empty : Query.parse query = .phrase []) : Text.trim query = [] := by
  cases split : Query.split? query with
  | none =>
    rw [parse_whole split] at empty
    exact Query.phrase.inj empty
  | some found =>
    rw [parse_split split] at empty
    cases empty

/-- With whole operands, blanks around a query do not change its tree. -/
private theorem parse_trim (whole : WholeOperands query) :
    Query.parse query = Query.parse (Text.trim query) := by
  cases split : Query.split? query with
  | none =>
    have still : Query.split? (Text.trim query) = none := by
      rw [split_none_iff] at split ⊢
      exact fun operator occurs => split operator (occurs.trans (trim_is_part query))
    rw [parse_whole split, parse_whole still, trim_trim]
  | some found =>
    obtain ⟨operator, before, after⟩ := found
    obtain ⟨onLeft, onRight⟩ := whole _ split
    obtain ⟨left, right, there, sameLeft, sameRight⟩ := split_trim split onLeft onRight
    rw [parse_split split, parse_split there, sameLeft, sameRight]

/-- A side that is blank is an empty phrase in the tree, and a trimmed query has no such side. -/
private theorem whole_of_parse (same : Query.parse query = Query.parse (Text.trim query)) :
    WholeOperands query := by
  intro ⟨operator, before, after⟩ found
  rw [parse_split found] at same
  cases split : Query.split? (Text.trim query) with
  | none =>
    rw [parse_whole split] at same
    cases same
  | some sides =>
    obtain ⟨other, left, right⟩ := sides
    obtain ⟨onLeft, onRight⟩ := whole_trimmed query _ split
    rw [parse_split split] at same
    obtain ⟨-, sameLeft, sameRight⟩ := Query.node.inj same
    constructor
    · intro none
      rw [none, parse_nil] at sameLeft
      exact onLeft (trim_trim left ▸ blank_of_parse sameLeft.symm)
    · intro none
      rw [none, parse_nil] at sameRight
      exact onRight (trim_trim right ▸ blank_of_parse sameRight.symm)

/-- Blanks around a query leave its tree as it is exactly if it has whole operands. Then the query selects the
same documents of every index, whatever complements are taken in; and whether a query is nothing but a
keyword never depends on the blanks around it. -/
theorem outer_blanks_harmless_iff (query : Text) :
    (Query.parse query = Query.parse (Text.trim query) ↔ WholeOperands query) ∧
      (WholeOperands query → ∀ index all,
        Query.evaluate index (Query.parse query) =
            Query.evaluate index (Query.parse (Text.trim query)) ∧
          Query.evaluateIn index all (Query.parse query) =
            Query.evaluateIn index all (Query.parse (Text.trim query))) ∧
      Query.isBareOperator query = Query.isBareOperator (Text.trim query) := by
  refine ⟨⟨whole_of_parse, parse_trim⟩, fun whole index all => ?_, ?_⟩
  · rw [← parse_trim whole]
    exact ⟨rfl, rfl⟩
  · simp only [Query.isBareOperator, trim_trim]

example : WholeOperands "\t cat and dog ".toList := by decide +kernel

/-- A blank before a leading keyword makes it an operator with nothing on its left, and a document in which the
keyword and the next word stand in a row is no longer found. -/
theorem leading_blank_splits :
    Query.parse " and x".toList ≠ Query.parse (Text.trim " and x".toList) ∧
      ∃ index doc, doc ∉ Query.evaluate index (Query.parse " and x".toList) ∧
        doc ∈ Query.evaluate index (Query.parse (Text.trim " and x".toList)) :=
  ⟨by decide +kernel,
    Index.ofLists [("and".toList, [("d".toList, [0])]), ("x".toList, [("d".toList, [1])])],
    "d".toList, by decide +kernel⟩

end Concordance.OuterBlanks
