import Concordance.Proofs.WordParser

/-!
The tree of any query, whatever blanks and characters it holds. Each split succeeds and leaves shorter
texts to parse; what is left at the leaves holds no operator; operators of high priority stand above
those of low priority; and the words of the tree from left to right are the words of the query.
-/
namespace Concordance.TreeShape
open TextCuts WordParser

/-! ## Splitting a text -/

/-- A finite run of the parser that gives a tree. A text without an operator is a phrase; any other
text is split at the operator that was found, and both sides are strictly shorter. -/
inductive Parses : Text → Query → Prop where
  | phrase {t : Text} :
      Query.findOperator? t = none → Parses t (.phrase (Text.trim t))
  | node {t before after : Text} {operator : Operator} {left right : Query} :
      Query.findOperator? t = some operator →
      Query.splitAt t operator = .ok (before, after) →
      (Text.trim before).length < t.length → (Text.trim after).length < t.length →
      Parses (Text.trim before) left → Parses (Text.trim after) right →
      Parses t (.node operator left right)

variable {t before after : Text} {operator other : Operator}

/-- Looking for the first element with an image finds it together with its image. -/
private theorem find_with_image {α β : Type} (f : α → Option β) (as : List α) :
    (as.findSome? fun a => (f a).map fun b => (a, b)) =
      (as.find? fun a => (f a).isSome).bind fun a => (f a).map fun b => (a, b) := by
  induction as with
  | nil => rfl
  | cons a as ih => cases image : f a <;> simp [image, ih]

private theorem split_eq (t : Text) :
    Query.split? t = (Query.findOperator? t).bind fun operator =>
      (Text.cutAt? operator.delimited t).map fun sides => (operator, sides) :=
  find_with_image (fun operator : Operator => Text.cutAt? operator.delimited t) Operator.priority

theorem split_cut (split : Query.split? t = some (operator, before, after)) :
    Query.findOperator? t = some operator ∧
      Text.cutAt? operator.delimited t = some (before, after) := by
  rw [split_eq] at split
  obtain ⟨found, here, mapped⟩ := Option.bind_eq_some_iff.mp split
  obtain ⟨sides, cut, same⟩ := Option.map_eq_some_iff.mp mapped
  cases same
  exact ⟨here, cut⟩

/-- A text is not split exactly if it holds no operator. -/
theorem split_none_iff :
    Query.split? t = none ↔ ∀ operator : Operator, ¬ operator.delimited <:+: t := by
  unfold Query.split?
  simp [List.findSome?_eq_none_iff, cut_none_iff]

private theorem find_none (whole : Query.split? t = none) : Query.findOperator? t = none := by
  rw [split_none_iff] at whole
  unfold Query.findOperator?
  rw [List.find?_eq_none]
  intro operator _
  simp [cut_none_iff.mpr (whole operator)]

private theorem split_at_cut (split : Query.splitAt t operator = .ok (before, after)) :
    Text.cutAt? operator.delimited t = some (before, after) := by
  unfold Query.splitAt at split
  split at split
  · rename_i sides cut
    cases split
    exact cut
  · cases split

theorem parse_whole (whole : Query.split? t = none) : Query.parse t = .phrase (Text.trim t) := by
  unfold Query.parse
  split
  · rfl
  · rename_i found
    rw [whole] at found
    cases found

theorem parse_split (found : Query.split? t = some (operator, before, after)) :
    Query.parse t =
      .node operator (Query.parse (Text.trim before)) (Query.parse (Text.trim after)) := by
  rw [Query.parse]
  split
  · rename_i whole
    rw [found] at whole
    cases whole
  · rename_i again
    rw [found] at again
    cases again
    rfl

/-- Parsing any text is a finite run. -/
theorem parses_parse (query : Text) : Parses query (Query.parse query) := by
  fun_induction Query.parse query with
  | case1 t none => exact .phrase (find_none none)
  | case2 t operator before after found leftIH rightIH =>
    obtain ⟨first, cut⟩ := split_cut found
    obtain ⟨shorterLeft, shorterRight⟩ := Query.length_split? found
    have split : Query.splitAt t operator = .ok (before, after) := by
      rw [Query.splitAt, cut]
    exact .node first split
      (Nat.lt_of_le_of_lt (Query.length_trim_le before) shorterLeft)
      (Nat.lt_of_le_of_lt (Query.length_trim_le after) shorterRight) leftIH rightIH

/-- The only tree that a run of the parser gives is the tree of the text. -/
theorem parses_iff {query : Text} {tree : Query} :
    Parses query tree ↔ tree = Query.parse query := by
  refine ⟨fun run => ?_, fun same => same ▸ parses_parse query⟩
  induction run with
  | @phrase t whole =>
    have unsplit : Query.split? t = none := by rw [split_eq, whole, Option.bind_none]
    rw [parse_whole unsplit]
  | @node t before after operator left right first split _ _ _ _ leftIH rightIH =>
    have found : Query.split? t = some (operator, before, after) := by
      rw [split_eq, first, Option.bind_some, split_at_cut split, Option.map_some]
    rw [parse_split found, leftIH, rightIH]

/-! ## Priorities -/

private theorem operator_of_rank : rank other = rank operator → other = operator := by
  cases other <;> cases operator <;> decide

/-- The operator at the top of a tree occurs in the text. -/
private theorem top_occurs {left right : Query} (top : Query.parse t = .node other left right) :
    other.delimited <:+: t := by
  unfold Query.parse at top
  split at top
  · cases top
  · rename_i before after found
    cases top
    exact ⟨before, after, Text.cutAt?_append (split_cut found).2⟩

/-- What occurs in a text that is split has no higher priority than the operator of the split. -/
private theorem occurs_not_before (split : Query.split? t = some (operator, before, after))
    (occurs : other.delimited <:+: t) : rank operator ≤ rank other := by
  refine Nat.le_of_not_lt fun earlier => ?_
  have absent : Text.cutAt? other.delimited t = none :=
    earlier_absent (f := fun operator : Operator => Text.cutAt? operator.delimited t) split earlier
  exact cut_none_iff.mp absent occurs

/-- Before the first occurrence of the operator, only operators of lower priority are left. -/
private theorem left_after (split : Query.split? t = some (operator, before, after))
    (occurs : other.delimited <:+: before) : rank operator < rank other := by
  have cut := (split_cut split).2
  have inside : before <:+: t := ⟨[], operator.delimited ++ after, by
    rw [List.nil_append, ← List.append_assoc, Text.cutAt?_append cut]⟩
  refine Nat.lt_of_le_of_ne (occurs_not_before split (occurs.trans inside)) fun same => ?_
  rw [operator_of_rank same.symm] at occurs
  exact cut_before_free (Query.delimited_ne_nil operator) cut occurs

private theorem right_not_before (split : Query.split? t = some (operator, before, after))
    (occurs : other.delimited <:+: after) : rank operator ≤ rank other := by
  have inside : after <:+: t := ⟨before ++ operator.delimited, [], by
    rw [List.append_nil, Text.cutAt?_append (split_cut split).2]⟩
  exact occurs_not_before split (occurs.trans inside)

/-! ## Leaves and nodes -/

/-- A phrase as it stands at a leaf: trimmed, and without an operator between spaces. -/
structure Plain (t : Text) : Prop where
  trimmed : Text.trim t = t
  free : ∀ operator : Operator, ¬ operator.delimited <:+: t

/-- A node whose operator is of higher priority than that on the left, and of no lower priority than
that on the right. -/
structure Ranked (operator : Operator) (left right : Query) : Prop where
  left_lower : ∀ other inner outer, left = .node other inner outer → rank operator < rank other
  right_not_higher : ∀ other inner outer, right = .node other inner outer →
    rank operator ≤ rank other

/-- Every phrase in the tree of a text is plain. -/
theorem leaf_plain {leaf : Text} (within : Within (.phrase leaf) (Query.parse t)) : Plain leaf := by
  fun_induction Query.parse t with
  | case1 t none =>
    cases within
    have free := split_none_iff.mp none
    exact ⟨trim_trim t, fun operator occurs => free operator (occurs.trans (trim_is_part t))⟩
  | case2 t operator before after found leftIH rightIH =>
    cases within with
    | left within => exact leftIH within
    | right within => exact rightIH within

/-- Every node in the tree of a text is ranked. -/
theorem node_ranked {left right : Query}
    (within : Within (.node operator left right) (Query.parse t)) : Ranked operator left right := by
  fun_induction Query.parse t with
  | case1 t none => cases within
  | case2 t operator before after found leftIH rightIH =>
    cases within with
    | here =>
      constructor
      · intro other inner outer top
        exact left_after found ((top_occurs top).trans (trim_is_part before))
      · intro other inner outer top
        exact right_not_before found ((top_occurs top).trans (trim_is_part after))
    | left within => exact leftIH within
    | right within => exact rightIH within

/-! ## Words -/

/-- The texts of a tree from left to right: its phrases, and the keywords of its operators. -/
def pieces : Query → List Text
  | .phrase t => [t]
  | .node operator left right => pieces left ++ operator.keyword :: pieces right

private theorem words_delimited (before after : Text) (operator : Operator) :
    Text.words (before ++ operator.delimited ++ after) =
      Text.words before ++ Text.words operator.keyword ++ Text.words after := by
  have shape : before ++ operator.delimited ++ after =
      before ++ ' ' :: (operator.keyword ++ ' ' :: after) := by
    simp [Operator.delimited]
  rw [shape, words_around_blank space_is_blank, words_around_blank space_is_blank,
    List.append_assoc]

/-- No word of a text is lost, repeated or moved by parsing it. -/
theorem words_pieces (query : Text) :
    (pieces (Query.parse query)).flatMap Text.words = Text.words query := by
  fun_induction Query.parse query with
  | case1 t none => simp [pieces]
  | case2 t operator before after found leftIH rightIH =>
    rw [pieces, List.flatMap_append, List.flatMap_cons, leftIH, rightIH, words_trim, words_trim,
      ← List.append_assoc, ← words_delimited, Text.cutAt?_append (split_cut found).2]

/-- The runs of the parser on any text, finite and of splits that succeed, give its tree and no other;
the leaves of the tree are plain, its nodes are ranked by priority, and its words are those of the
text. -/
theorem any_text_has_ordered_tree (query : Text) :
    (∀ tree, Parses query tree ↔ tree = Query.parse query) ∧
      (∀ leaf, Within (.phrase leaf) (Query.parse query) → Plain leaf) ∧
      (∀ operator left right, Within (.node operator left right) (Query.parse query) →
        Ranked operator left right) ∧
      (pieces (Query.parse query)).flatMap Text.words = Text.words query :=
  ⟨fun _ => parses_iff, fun _ => leaf_plain, fun _ _ _ => node_ranked, words_pieces query⟩

end Concordance.TreeShape
