import Concordance.Text.LetterCase

/-!
A text in small letters stays what it is when it is put into small letters again. The table of capital
letters lists none of the small forms that it leads to, and a small sigma of either form has no context to
depend on.
-/
namespace Concordance.SmallLetters

open Text

/-! ## The table of capital letters -/

/-- Whether a run of letters lists none from `first` to `last`; with `skips`, of every second one. -/
def apart (first last : Nat) (skips : Bool) (run : Run) : Bool :=
  Nat.blt last run.first || Nat.blt run.last first ||
    (skips && run.step == 2 && (first - run.first) % 2 == 1)

-- Compared run by run: to try every letter against every run takes the kernel a minute.
private theorem small_forms_unlisted :
    capitalRuns.all (fun run => run.shift == 0 ||
      capitalRuns.all (apart (run.first + run.shift).toNat (run.last + run.shift).toNat
        (run.step == 2 || run.first == run.last))) = true := by
  decide +kernel

private theorem null_unlisted : capitalRuns.all (fun run => Nat.blt 0 run.first) = true := by
  decide +kernel

theorem toNat_ofNat (n : Nat) : (Char.ofNat n).toNat = n ∨ (Char.ofNat n).toNat = 0 := by
  by_cases valid : n.isValidChar
  · rw [Char.ofNat, dif_pos valid]
    exact .inl rfl
  · rw [Char.ofNat, dif_neg valid]
    exact .inr rfl

private theorem not_holds_of_apart {run other : Run} {c : Char} (listed : run.holds c = true)
    (clear : apart (run.first + run.shift).toNat (run.last + run.shift).toNat
      (run.step == 2 || run.first == run.last) other = true) (positive : 0 < other.first) :
    other.holds (Char.ofNat (c.toNat + run.shift).toNat) = false := by
  simp only [Run.holds, Bool.and_eq_true, decide_eq_true_eq, beq_iff_eq] at listed
  simp only [apart, Bool.or_eq_true, Bool.and_eq_true, Nat.blt_eq, beq_iff_eq] at clear
  rw [← Bool.not_eq_true]
  simp only [Run.holds, Bool.and_eq_true, decide_eq_true_eq, beq_iff_eq]
  rintro ⟨⟨above, below⟩, onStep⟩
  rcases toNat_ofNat (c.toNat + run.shift).toNat with whole | null
  · rw [whole] at above below onStep
    rcases clear with (before | after) | ⟨⟨skips, two⟩, odd⟩
    · omega
    · omega
    · rw [two] at onStep
      rcases skips with even | single
      · rw [even] at listed
        omega
      · omega
  · omega

private theorem not_capital_of_listed {run : Run} {c : Char} (member : run ∈ capitalRuns)
    (listed : run.holds c = true) (moved : run.shift ≠ 0) :
    isCapital (Char.ofNat (c.toNat + run.shift).toNat) = false := by
  have clear := List.all_eq_true.mp small_forms_unlisted run member
  rw [Bool.or_eq_true, beq_iff_eq, or_iff_right moved] at clear
  rw [isCapital, List.any_eq_false]
  intro other here
  have positive := List.all_eq_true.mp null_unlisted other here
  rw [Nat.blt_eq] at positive
  rw [not_holds_of_apart listed (List.all_eq_true.mp clear other here) positive]
  exact Bool.false_ne_true

/-! ## Small letters -/

/-- A character that small letters leave as it is, wherever it stands. -/
def Settled (c : Char) : Prop := c ≠ 'Σ' ∧ lowerChar c = [c]

theorem settled_of_not_capital {c : Char} (small : isCapital c = false) : Settled c := by
  constructor
  · rintro rfl
    exact absurd small (by decide +kernel)
  · have dotted : c ≠ 'İ' := by
      rintro rfl
      exact absurd small (by decide +kernel)
    have unlisted : capitalRuns.find? (·.holds c) = none := by
      rw [List.find?_eq_none]
      exact List.any_eq_false.mp small
    rw [lowerChar, if_neg dotted, unlisted]

/-- The small form of a character is settled; so is a capital that has none. -/
private theorem settled_lowerChar {c d : Char} (noSigma : c ≠ 'Σ') (member : d ∈ lowerChar c) :
    Settled d := by
  by_cases dotted : c = 'İ'
  · rw [lowerChar, if_pos dotted] at member
    simp only [List.mem_cons, List.not_mem_nil, or_false] at member
    rcases member with rfl | rfl
    · exact settled_of_not_capital (by decide +kernel)
    · exact settled_of_not_capital (by decide +kernel)
  · cases found : capitalRuns.find? (·.holds c) with
    | none =>
      have same : lowerChar c = [c] := by rw [lowerChar, if_neg dotted, found]
      rw [same, List.mem_singleton] at member
      exact member ▸ ⟨noSigma, same⟩
    | some run =>
      have form : lowerChar c = [Char.ofNat (c.toNat + run.shift).toNat] := by
        rw [lowerChar, if_neg dotted, found]
      rw [form, List.mem_singleton] at member
      subst member
      by_cases moved : run.shift = 0
      · -- A capital without a small form is its own.
        rw [moved, Int.add_zero, Int.toNat_natCast, Char.ofNat_toNat] at form ⊢
        exact ⟨noSigma, form⟩
      · have listed : run.holds c = true := by simpa using List.find?_some found
        exact settled_of_not_capital
          (not_capital_of_listed (List.mem_of_find?_eq_some found) listed moved)

theorem settled_lowerAfter {before t : Text} {d : Char} (member : d ∈ lowerAfter before t) :
    Settled d := by
  induction t generalizing before with
  | nil => cases member
  | cons c rest ih =>
    rw [lowerAfter, List.mem_append] at member
    rcases member with here | later
    · split at here
      · -- The form of a sigma depends on its context, but small letters leave either form.
        rw [List.mem_singleton] at here
        subst here
        split <;> exact settled_of_not_capital (by decide +kernel)
      · next noSigma => exact settled_lowerChar noSigma here
    · exact ih later

theorem lowerAfter_of_settled {before t : Text} (settled : ∀ c ∈ t, Settled c) :
    lowerAfter before t = t := by
  induction t generalizing before with
  | nil => rfl
  | cons c rest ih =>
    obtain ⟨noSigma, same⟩ := settled c List.mem_cons_self
    rw [lowerAfter, if_neg noSigma, same, ih fun d member => settled d (List.mem_cons_of_mem c member)]
    rfl

/-- Small letters are put into small letters once. -/
@[simp] theorem lower_lower (t : Text) : lower (lower t) = lower t :=
  lowerAfter_of_settled fun _ member => settled_lowerAfter member

end Concordance.SmallLetters
