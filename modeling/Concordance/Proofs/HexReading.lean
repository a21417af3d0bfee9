import Concordance.Json.Reader
import Concordance.Text.Quoted

/-!
Reading hexadecimal digits gives the number that was written. So numbers of one width are told apart by their
digits, whatever zeros stand in front.
-/
namespace Concordance.HexReading

private theorem hex_value : ∀ value < 16, Json.hexValue? value.digitChar = some value := by
  decide

/-- Hexadecimal digits read back, also behind zeros, give the number that was written. -/
theorem read_hex (width n : Nat) : Json.hexNumber? (Text.hex width n) = some n := by
  have zeros (count : Nat) : (List.replicate count '0').foldlM
      (fun n c => (Json.hexValue? c).map (n * 16 + ·)) 0 = some 0 := by
    induction count with
    | zero => rfl
    | succ count ih =>
      rw [List.replicate_succ, List.foldlM_cons]
      exact ih
  unfold Json.hexNumber? Text.hex Text.padLeft
  rw [List.foldlM_append, zeros, Option.bind_eq_bind, Option.bind_some]
  induction n using Nat.strongRecOn with
  | ind n ih =>
    rw [Nat.toDigits_eq_if (by decide)]
    split
    · rename_i small
      simp [hex_value n small]
    · rename_i large
      have last := hex_value (n % 16) (Nat.mod_lt n (by decide))
      rw [List.foldlM_append, ih (n / 16) (by omega)]
      simp [last]
      omega

theorem hex_injective {width m n : Nat} (same : Text.hex width m = Text.hex width n) : m = n :=
  Option.some.inj (by rw [← read_hex width m, same, read_hex])

theorem hex_nonempty (width n : Nat) : Text.hex width n ≠ [] := by
  simp [Text.hex, Text.padLeft, Nat.toDigits_ne_nil]

private theorem digit_of_value {c : Char} {value : Nat} (digit : Json.hexValue? c = some value) :
    '0'.toNat ≤ c.toNat := by
  refine Nat.le_of_not_lt fun small => ?_
  have noDigit (low : Char) (high : '0'.toNat ≤ low.toNat) : ¬ low ≤ c := fun above =>
    Nat.not_le_of_lt (Nat.lt_of_lt_of_le small high) (UInt32.le_iff_toNat_le.mp above)
  have none : Json.hexValue? c = none := by
    simp [Json.hexValue?, noDigit 'a' (by decide), noDigit 'A' (by decide),
      show c.isDigit = false from Bool.and_eq_false_imp.mpr fun above =>
        absurd (of_decide_eq_true above) (noDigit '0' (by decide))]
  rw [none] at digit
  cases digit

/-- What is read as a hexadecimal number holds nothing in front of the digits. -/
theorem digits_of_number {digits : Text} {n : Nat} (read : Json.hexNumber? digits = some n) :
    ∀ c ∈ digits, '0'.toNat ≤ c.toNat := by
  unfold Json.hexNumber? at read
  generalize 0 = start at read
  induction digits generalizing start with
  | nil => simp
  | cons c rest ih =>
    rw [List.foldlM_cons] at read
    cases digit : Json.hexValue? c with
    | none => simp [digit] at read
    | some value =>
      simp only [digit, Option.map_some, Option.bind_eq_bind, Option.bind_some] at read
      exact List.forall_mem_cons.mpr ⟨digit_of_value digit, ih _ read⟩

end Concordance.HexReading
