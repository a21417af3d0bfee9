import Concordance.Number.Integer
import Concordance.Proofs.TextCuts

/-!
Reading a number in decimal notation gives the number that was written, up to the length that is read at
all. Whatever else is read, in whatever spelling, is below the same bound.
-/
namespace Concordance.DecimalReading
open TextCuts

-- Powers mean the same whatever else is imported.
attribute [local instance (high)] instPowNat

variable {t : Text} {n : Int}

/-! ## Characters of a number -/

theorem digit_not_blank {c : Char} (digit : c.isDigit = true) : Text.isBlank c = false := by
  have range : 48 ≤ c.toNat ∧ c.toNat ≤ 57 := by
    simpa [Char.isDigit, UInt32.le_iff_toNat_le] using digit
  simp only [Text.isBlank, Text.inRanges, Text.blankRanges, List.any_cons, List.any_nil,
    Bool.or_eq_false_iff, Bool.and_eq_false_iff, decide_eq_false_iff_not, and_true]
  omega

private theorem digit_not_margin {c : Char} (digit : c.isDigit = true) :
    Integer.isMargin c = false := by
  rw [Integer.isMargin, digit_not_blank digit, Bool.false_and]

theorem decimal_nat_digit (n : Nat) : ∀ c ∈ Integer.decimalNat n, c.isDigit = true :=
  fun _ member => Nat.isDigit_of_mem_toDigits (by decide) (by decide) member

theorem decimal_nat_nonempty (n : Nat) : Integer.decimalNat n ≠ [] := Nat.toDigits_ne_nil

/-- A number that is not negative is written without a sign. -/
theorem decimal_of_natural (natural : 0 ≤ n) : Integer.decimal n = Integer.decimalNat n.toNat := by
  obtain ⟨m, rfl⟩ := Int.eq_ofNat_of_zero_le natural
  rw [Integer.decimal, if_neg (by omega)]
  rfl

theorem decimal_plain (n : Int) : ∀ c ∈ Integer.decimal n, c = '-' ∨ c.isDigit = true := by
  intro c member
  unfold Integer.decimal at member
  split at member
  · exact (List.mem_cons.mp member).imp_right (decimal_nat_digit _ c)
  · exact .inr (decimal_nat_digit _ c member)

/-! ## Reading what was written -/

private theorem digit_char_value : ∀ value < 10, Text.digitValue? value.digitChar = some value := by
  decide

private theorem digits_append {values : List Nat} {c : Char} {value : Nat}
    (before : Integer.digits? t = some values) (last : Text.digitValue? c = some value) :
    Integer.digits? (t ++ [c]) = some (values ++ [value]) := by
  have notMark : c ≠ '_' := by
    rintro rfl
    cases last
  fun_induction Integer.digits? t generalizing values with
  | case1 => cases before
  | case2 => cases before
  | case3 first _ found =>
    cases before
    simp [Integer.digits?, found, last]
  | case4 first _ found more ih =>
    obtain ⟨later, read, rfl⟩ := Option.map_eq_some_iff.mp before
    simp [Integer.digits?, found, ih read]
  | case5 first _ found next more _ ih =>
    obtain ⟨later, read, rfl⟩ := Option.map_eq_some_iff.mp before
    have more := ih read
    rw [List.cons_append] at more
    simp [Integer.digits?, found, more]

/-- The digits of a number are its own spelling. -/
private theorem digits_decimal (n : Nat) :
    ∃ values, Integer.digits? (Integer.decimalNat n) = some values ∧
      values.length = (Integer.decimalNat n).length ∧ Integer.ofDigits values = n := by
  induction n using Nat.strongRecOn with
  | ind n ih =>
    unfold Integer.decimalNat at ih ⊢
    rw [Nat.toDigits_eq_if (by decide)]
    split
    · rename_i small
      exact ⟨[n], by simp [Integer.digits?, digit_char_value n small], rfl, by simp [Integer.ofDigits]⟩
    · rename_i large
      obtain ⟨values, read, length, value⟩ := ih (n / 10) (by omega)
      have last := digit_char_value (n % 10) (Nat.mod_lt n (by decide))
      refine ⟨values ++ [n % 10], digits_append read last, by simp [length], ?_⟩
      unfold Integer.ofDigits at value ⊢
      rw [List.foldl_append, value, List.foldl_cons, List.foldl_nil]
      omega

private theorem read_nat_decimal {n : Nat} (bounded : n < 10 ^ Integer.digitLimit) :
    Integer.readNat? (Integer.decimalNat n) = some n := by
  obtain ⟨values, read, length, value⟩ := digits_decimal n
  have short : values.length ≤ Integer.digitLimit := by
    rw [length]
    exact (Nat.length_toDigits_le_iff (by decide) (by decide)).mpr bounded
  unfold Integer.readNat?
  rw [read]
  simp [short, value]

/-- Text that begins and ends with digits has no margin and no sign. -/
private theorem read_of_digits (some : t ≠ []) (digits : ∀ c ∈ t, c.isDigit = true) :
    Integer.read? t = (Integer.readNat? t).map Int.ofNat := by
  have bare : Text.dropEndWhile Integer.isMargin (t.dropWhile Integer.isMargin) = t := by
    rw [drop_while_of_head fun c found => digit_not_margin (digits c (List.mem_of_head? found))]
    exact drop_end_of_last fun c found => digit_not_margin (digits c (List.mem_of_getLast? found))
  unfold Integer.read?
  rw [bare]
  split
  · exact absurd (digits '+' (by simp)) (by decide)
  · exact absurd (digits '-' (by simp)) (by decide)
  · rfl

private theorem natural_below_iff {m limit : Nat} : (m : Int) < 10 ^ limit ↔ m < 10 ^ limit := by
  rw [← Int.ofNat_lt, Int.natCast_pow]
  rfl

/-- A number that is not negative is read back from its decimal notation. -/
theorem read_decimal (natural : 0 ≤ n) (bounded : n < 10 ^ Integer.digitLimit) :
    Integer.read? (Integer.decimal n) = some n := by
  obtain ⟨m, rfl⟩ := Int.eq_ofNat_of_zero_le natural
  rw [decimal_of_natural natural, Int.toNat_natCast,
    read_of_digits (decimal_nat_nonempty m) (decimal_nat_digit m), read_nat_decimal (natural_below_iff.mp bounded)]
  rfl

/-! ## Whatever is read -/

private theorem digit_value_below {c : Char} {value : Nat}
    (found : Text.digitValue? c = some value) : value < 10 := by
  obtain ⟨origin, here, rfl⟩ := Option.map_eq_some_iff.mp found
  have near := List.find?_some here
  simp only [Bool.and_eq_true, decide_eq_true_eq] at near
  omega

private theorem digits_below {values : List Nat} (read : Integer.digits? t = some values) :
    ∀ value ∈ values, value < 10 := by
  fun_induction Integer.digits? t generalizing values with
  | case1 => cases read
  | case2 => cases read
  | case3 first _ found =>
    cases read
    simpa using digit_value_below found
  | case4 first _ found more ih =>
    obtain ⟨later, rest, rfl⟩ := Option.map_eq_some_iff.mp read
    exact List.forall_mem_cons.mpr ⟨digit_value_below found, ih rest⟩
  | case5 first _ found next more _ ih =>
    obtain ⟨later, rest, rfl⟩ := Option.map_eq_some_iff.mp read
    exact List.forall_mem_cons.mpr ⟨digit_value_below found, ih rest⟩

private theorem of_digits_below {values : List Nat} (small : ∀ value ∈ values, value < 10)
    (start : Nat) :
    values.foldl (fun n value => 10 * n + value) start < (start + 1) * 10 ^ values.length := by
  induction values generalizing start with
  | nil => simp
  | cons value rest ih =>
    obtain ⟨first, later⟩ := List.forall_mem_cons.mp small
    calc rest.foldl (fun n value => 10 * n + value) (10 * start + value)
        < (10 * start + value + 1) * 10 ^ rest.length := ih later _
      _ ≤ (start + 1) * 10 * 10 ^ rest.length := Nat.mul_le_mul_right _ (by omega)
      _ = (start + 1) * 10 ^ (rest.length + 1) := by rw [Nat.pow_succ', Nat.mul_assoc]

private theorem read_nat_below {n : Nat} (read : Integer.readNat? t = some n) :
    n < 10 ^ Integer.digitLimit := by
  unfold Integer.readNat? at read
  cases found : Integer.digits? t with
  | none =>
    rw [found] at read
    cases read
  | some values =>
    rw [found] at read
    obtain ⟨short, rfl⟩ : values.length ≤ Integer.digitLimit ∧ Integer.ofDigits values = n := by
      simpa using read
    calc Integer.ofDigits values < (0 + 1) * 10 ^ values.length :=
          of_digits_below (digits_below found) 0
      _ = 10 ^ values.length := Nat.one_mul _
      _ ≤ 10 ^ Integer.digitLimit := Nat.pow_le_pow_right (by decide) short

/-- Every number that is read is below the bound, however it was spelled. -/
theorem read_below (read : Integer.read? t = some n) : n < 10 ^ Integer.digitLimit := by
  unfold Integer.read? at read
  split at read
  · obtain ⟨m, found, rfl⟩ := Option.map_eq_some_iff.mp read
    exact natural_below_iff.mpr (read_nat_below found)
  · obtain ⟨m, found, rfl⟩ := Option.map_eq_some_iff.mp read
    have positive : (0 : Int) < 10 ^ Integer.digitLimit := Int.pow_pos (by decide)
    exact Int.lt_of_le_of_lt (Int.neg_nonpos_of_nonneg (Int.natCast_nonneg m)) positive
  · obtain ⟨m, found, rfl⟩ := Option.map_eq_some_iff.mp read
    exact natural_below_iff.mpr (read_nat_below found)

end Concordance.DecimalReading
