import Concordance.Text.Basic

/-!
Texts in code point order. The sorted list of texts depends only on which texts there are: two lists
without repetition that have the same members are sorted to the same list.
-/
namespace Concordance.CodePointOrder

variable {t a b c : Text} {ts left right : List Text}

/-! ## The order -/

private theorem at_most_cons {x y : Char} :
    Text.atMost (x :: a) (y :: b) = true ↔
      x.toNat < y.toNat ∨ x = y ∧ Text.atMost a b = true := by
  simp [Text.atMost]

theorem at_most_trans (below : Text.atMost a b = true) (above : Text.atMost b c = true) :
    Text.atMost a c = true := by
  induction a generalizing b c with
  | nil => rfl
  | cons x a ih =>
    cases b with
    | nil => cases below
    | cons y b =>
      cases c with
      | nil => cases above
      | cons z c =>
        rw [at_most_cons] at below above ⊢
        obtain less | ⟨rfl, later⟩ := below
        · obtain more | ⟨rfl, _⟩ := above
          · exact .inl (Nat.lt_trans less more)
          · exact .inl less
        · exact above.imp_right fun ⟨same, further⟩ => ⟨same, ih later further⟩

theorem at_most_total (a b : Text) : Text.atMost a b = true ∨ Text.atMost b a = true := by
  induction a generalizing b with
  | nil => exact .inl rfl
  | cons x a ih =>
    cases b with
    | nil => exact .inr rfl
    | cons y b =>
      rw [at_most_cons, at_most_cons]
      by_cases same : x = y
      · exact (ih b).imp (fun later => .inr ⟨same, later⟩) fun later => .inr ⟨same.symm, later⟩
      · have different : x.toNat ≠ y.toNat := fun equal => same (Char.toNat_inj.mp equal)
        exact (Nat.lt_or_gt_of_ne different).imp .inl .inl

theorem at_most_antisymm (below : Text.atMost a b = true) (above : Text.atMost b a = true) :
    a = b := by
  induction a generalizing b with
  | nil =>
    cases b with
    | nil => rfl
    | cons y b => cases above
  | cons x a ih =>
    cases b with
    | nil => cases below
    | cons y b =>
      rw [at_most_cons] at below above
      obtain less | ⟨rfl, later⟩ := below
      · obtain more | ⟨rfl, _⟩ := above
        · exact absurd more (Nat.lt_asymm less)
        · exact absurd less (Nat.lt_irrefl _)
      · obtain more | ⟨_, further⟩ := above
        · exact absurd more (Nat.lt_irrefl _)
        · rw [ih later further]

/-- Of two different texts in order, the first one is smaller character by character. -/
theorem lt_of_at_most (ordered : Text.atMost a b = true) (different : a ≠ b) : a < b := by
  induction a generalizing b with
  | nil =>
    cases b with
    | nil => exact absurd rfl different
    | cons y b => exact List.nil_lt_cons y b
  | cons x a ih =>
    cases b with
    | nil => cases ordered
    | cons y b =>
      rw [List.cons_lt_cons_iff]
      rcases at_most_cons.mp ordered with less | ⟨rfl, later⟩
      · exact .inl less
      · exact .inr ⟨rfl, ih later fun same => different (same ▸ rfl)⟩

/-! ## Sorted texts -/

@[simp] theorem mem_sorted : t ∈ Text.sorted ts ↔ t ∈ ts := List.mem_mergeSort

/-- Sorted texts ascend in code point order. -/
theorem sorted_ascending (ts : List Text) :
    (Text.sorted ts).Pairwise fun a b => Text.atMost a b = true := by
  have transitive : ∀ a b c : Text, Text.atMost a b → Text.atMost b c → Text.atMost a c :=
    fun _ _ _ => at_most_trans
  have total : ∀ a b : Text, Text.atMost a b || Text.atMost b a := by
    intro a b
    rw [Bool.or_eq_true]
    exact at_most_total a b
  exact List.pairwise_mergeSort transitive total ts

/-- Texts without repetition are sorted in strict order. -/
theorem sorted_strictly (distinct : ts.Nodup) : (Text.sorted ts).Pairwise (· < ·) := by
  have again : (Text.sorted ts).Nodup := (List.mergeSort_perm ts _).nodup_iff.mpr distinct
  exact (sorted_ascending ts).imp₂ (fun _ _ => lt_of_at_most) again

/-- Texts without repetition have one order, whatever order they come in. -/
theorem sorted_of_mem_iff (leftDistinct : left.Nodup) (rightDistinct : right.Nodup)
    (same : ∀ t, t ∈ left ↔ t ∈ right) : Text.sorted left = Text.sorted right := by
  have members : left.Perm right :=
    (List.perm_ext_iff_of_nodup leftDistinct rightDistinct).mpr same
  have reordered : (Text.sorted left).Perm (Text.sorted right) :=
    (List.mergeSort_perm left _).trans (members.trans (List.mergeSort_perm right _).symm)
  exact reordered.eq_of_pairwise (fun _ _ _ _ => at_most_antisymm)
    (sorted_ascending left) (sorted_ascending right)

end Concordance.CodePointOrder
