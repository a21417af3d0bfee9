import Mathlib
import Concordance.Ranking.Cosine

/-!
The product of two lengths never vanishes. Rounding does not lower the leading bit of a number that is
large enough to be kept at all. So a square root is zero or at least `2 ^ -537`, and the product of two
roots that are not zero is at least `2 ^ -1074`, the least positive number: a cosine is never divided by
zero.
-/
namespace Concordance.LengthProduct

open Float.Model Float.Model.UnpackedFloat

/-! ## Leading bits of natural numbers -/

private theorem log2_le_log2 {m n : ℕ} (le : m ≤ n) : m.log2 ≤ n.log2 := by
  rw [Nat.log2_eq_log_two, Nat.log2_eq_log_two]
  exact Nat.log_mono_right le

private theorem log2_div_two_pow (m k : ℕ) : (m / 2 ^ k).log2 = m.log2 - k := by
  rw [Nat.log2_eq_log_two, Nat.log2_eq_log_two, Nat.log_div_base_pow]

private theorem log2_mul {m n : ℕ} (positiveM : 0 < m) (positiveN : 0 < n) :
    m.log2 + n.log2 ≤ (m * n).log2 := by
  rw [Nat.le_log2 (Nat.mul_pos positiveM positiveN).ne', pow_add]
  exact Nat.mul_le_mul (Nat.log2_self_le positiveM.ne') (Nat.log2_self_le positiveN.ne')

private theorem half_log2_le_log2_sqrt {m : ℕ} (positive : 0 < m) :
    m.log2 / 2 ≤ (Nat.sqrt m).log2 := by
  have root : 2 ^ (m.log2 / 2) ≤ Nat.sqrt m := by
    rw [Nat.le_sqrt', ← pow_mul]
    calc 2 ^ (m.log2 / 2 * 2) ≤ 2 ^ m.log2 :=
          Nat.pow_le_pow_right (by decide) (Nat.div_mul_le_self ..)
      _ ≤ m := Nat.log2_self_le positive.ne'
  exact (Nat.le_log2 ((Nat.two_pow_pos _).trans_le root).ne').mpr root

/-! ## Rounding -/

private theorem mantissa_shiftRight (extended : ExtendedMantissa) (k : ℕ) :
    (extended >>> k).mantissa = extended.mantissa / 2 ^ k := by
  change (k.repeat ExtendedMantissa.shiftRightOne extended).mantissa = _
  induction k with
  | zero => simp [Nat.repeat]
  | succ k ih =>
    rw [Nat.repeat, pow_succ, ← Nat.div_div_eq_div_mul, ← ih]
    rfl

private theorem mantissa_ofMantissaAndAccuracy (m : ℕ) (accuracy : Accuracy) :
    (ExtendedMantissa.ofMantissaAndAccuracy m accuracy).mantissa = m := by
  rcases accuracy with _ | (_ | _ | _) <;> rfl

private theorem mantissa_le_rounded (extended : ExtendedMantissa) :
    extended.mantissa ≤ extended.roundedMantissa := by
  rcases extended with ⟨m, _ | _, _ | _⟩ <;>
    simp [ExtendedMantissa.roundedMantissa, ExtendedMantissa.accuracy, Accuracy.roundToNearestEven]

/-- A finite number as it is stored: its mantissa has 53 bits, or fewer with the least exponent. -/
structure Stored (mantissa : ℕ) (exponent : ℤ) : Prop where
  bits : mantissa.log2 ≤ 52
  exponent_ge : -1074 ≤ exponent
  full_or_least : mantissa.log2 = 52 ∨ exponent = -1074

private theorem targetExponent_eq (m : ℕ) (e : ℤ) :
    Format.binary64.targetExponent (totalExponent m e) = max (m.log2 + e - 52) (-1074) := by
  have bits : (Format.binary64.mantissaBits : ℤ) = 53 := rfl
  have least : Format.binary64.minExponent = -1074 := rfl
  rw [Format.targetExponent, totalExponent, bits, least]
  congr 1
  ring

/-- A shift to the target exponent drops bits from the end, and never the leading one of a number that
is large enough. -/
private theorem shiftToTargetExponent_leading {m : ℕ} {e : ℤ} (positive : 0 < m)
    (large : -1074 ≤ m.log2 + e) (accuracy : Accuracy) :
    let shifted := shiftToTargetExponent Format.binary64 m e accuracy
    0 < shifted.1.mantissa ∧ shifted.1.mantissa.log2 + shifted.2 = m.log2 + e ∧
      shifted.2 = max e (max (m.log2 + e - 52) (-1074)) := by
  have target := targetExponent_eq m e
  obtain ⟨k, dropped⟩ : ∃ k : ℕ, k = (max (m.log2 + e - 52) (-1074) - e).toNat := ⟨_, rfl⟩
  -- Fewer bits are dropped than stand after the leading one.
  have few : k ≤ m.log2 := by omega
  have kept : 2 ^ k ≤ m :=
    (Nat.pow_le_pow_right (by decide) few).trans (Nat.log2_self_le positive.ne')
  simp only [shiftToTargetExponent, shiftToExponent, target, mantissa_shiftRight,
    mantissa_ofMantissaAndAccuracy, log2_div_two_pow, ← dropped]
  exact ⟨Nat.div_pos kept (Nat.two_pow_pos k), by omega, by omega⟩

/-- Rounding gives a number that can be stored and does not lower the leading bit, provided that the
mantissa has bits enough and the number is not below all positive ones. -/
private theorem roundWithAccuracy_finite (s : Sign) {m : ℕ} {e : ℤ} (accuracy : Accuracy)
    (bits : 52 ≤ m.log2) (large : -1074 ≤ m.log2 + e) :
    ∃ m' e' positive, roundWithAccuracy Format.binary64 s m e accuracy = .finite s m' e' positive ∧
      Stored m' e' ∧ m.log2 + e ≤ m'.log2 + e' := by
  have positive : 0 < m := Nat.pos_of_ne_zero (by rintro rfl; simp at bits)
  obtain ⟨positive₁, leading₁, exponent₁⟩ := shiftToTargetExponent_leading positive large accuracy
  simp only [roundWithAccuracy]
  generalize shiftToTargetExponent Format.binary64 m e accuracy = first at *
  -- Rounding up may carry into one more bit, which the second shift takes away again.
  have up : first.1.mantissa ≤ first.1.roundedMantissa := mantissa_le_rounded first.1
  have upLeading := log2_le_log2 up
  obtain ⟨positive₂, leading₂, exponent₂⟩ :=
    shiftToTargetExponent_leading (positive₁.trans_le up) (e := first.2) (by omega) .exact
  rw [dif_neg positive₂.ne']
  exact ⟨_, _, _, rfl, ⟨by omega, by omega, by omega⟩, by omega⟩

/-! ## Packing -/

private theorem unpack_exponent_ge {x : Float.Model} {s : Sign} {m : ℕ} {e : ℤ} {positive : 0 < m}
    (finite : x.unpack = .finite s m e positive) : -1074 ≤ e := by
  have bias : (Format.binary64.exponentBias : ℤ) = 1023 := rfl
  simp only [Float.Model.unpack, UnpackedFloat.unpack] at finite
  split at finite
  · split at finite <;> exact UnpackedFloat.noConfusion finite
  · next =>
    split at finite
    · split at finite
      · exact UnpackedFloat.noConfusion finite
      · injection finite with _ _ exponent
        omega
    · next normal =>
      injection finite with _ _ exponent
      have := mt BitVec.toNat_inj.mp normal
      simp at this
      omega

private theorem unpack_full {s : Sign} {m biased : ℕ} (positive : 0 < m) (least : 2 ^ 52 ≤ m)
    (below : m < 2 ^ 53) (nonzero : 0 < biased) (fits : biased < 2047) :
    unpack Format.binary64
        (packComponents Format.binary64 s (BitVec.ofNat 11 biased) (BitVec.ofNat 52 m)) =
      .finite s m (biased - 1075) positive := by
  have exponent : (BitVec.ofNat 11 biased).toNat = biased := Nat.mod_eq_of_lt (by omega)
  have normal : BitVec.ofNat 11 biased ≠ 0#11 := by
    rw [ne_eq, ← BitVec.toNat_inj, exponent]
    exact nonzero.ne'
  have finite : BitVec.ofNat 11 biased ≠ -1#11 := by
    rw [ne_eq, ← BitVec.toNat_inj, exponent]
    exact fits.ne
  have mantissa : (1#1 ++ BitVec.ofNat 52 m).toNat = m := by
    rw [BitVec.toNat_append, ← Nat.shiftLeft_add_eq_or_of_lt (BitVec.isLt _), BitVec.toNat_ofNat,
      BitVec.toNat_ofNat]
    omega
  have bias : Format.binary64.exponentBias = 1023 := rfl
  simp only [UnpackedFloat.unpack, unpackSign_packComponents, unpackExponent_packComponents,
    unpackMantissa_packComponents, Sign.ofBitVec_toBitVec, normal, finite, if_false, mantissa,
    exponent, bias]
  rfl

private theorem unpack_least {s : Sign} {m : ℕ} (positive : 0 < m) (below : m < 2 ^ 52) :
    unpack Format.binary64 (packComponents Format.binary64 s 0#11 (BitVec.ofNat 52 m)) =
      .finite s m (-1074) positive := by
  have mantissa : (BitVec.ofNat 52 m).toNat = m := Nat.mod_eq_of_lt below
  have nonzero : BitVec.ofNat 52 m ≠ 0#52 := by
    rw [ne_eq, ← BitVec.toNat_inj, mantissa]
    exact positive.ne'
  have finite : 0#11 ≠ -1#11 := by decide
  simp only [UnpackedFloat.unpack, unpackSign_packComponents, unpackExponent_packComponents,
    unpackMantissa_packComponents, Sign.ofBitVec_toBitVec, finite, if_true, if_false, nonzero,
    dif_neg, not_false_eq_true, mantissa]
  rfl

/-- A number that can be stored is unpacked as itself, unless it is too large to be packed. -/
private theorem unpack_pack {s : Sign} {m : ℕ} {e : ℤ} (positive : 0 < m) (stored : Stored m e) :
    unpack Format.binary64 (UnpackedFloat.pack Format.binary64 (.finite s m e positive)) =
        .finite s m e positive ∨
      unpack Format.binary64 (UnpackedFloat.pack Format.binary64 (.finite s m e positive)) =
        .infinity s := by
  obtain ⟨bits, exponent_ge, full_or_least⟩ := stored
  have bias : Format.binary64.exponentBias = 1023 := rfl
  have width : Format.binary64.mantissaBits = 53 := rfl
  simp only [UnpackedFloat.pack, bias, width]
  split
  · right
    simp [packedInfinity, UnpackedFloat.unpack]
  · left
    split
    · rw [unpack_full positive ((Nat.le_log2 positive.ne').mp (by omega))
        ((Nat.log2_lt positive.ne').mp (by omega)) (by omega) (by omega)]
      congr 1
      omega
    · rw [unpack_least positive ((Nat.log2_lt positive.ne').mp (by omega))]
      congr 1
      omega

/-! ## Roots and their products -/

/-- Not a small number: finite ones have all bits of the mantissa, the leading one at `2 ^ -537` or
above. -/
def NotSmall : UnpackedFloat → Prop
  | .finite _ m e _ => 52 ≤ m.log2 ∧ -537 ≤ m.log2 + e
  | _ => True

private theorem sqrtCore_leading {m : ℕ} {e : ℤ} (positive : 0 < m) (exponent_ge : -1074 ≤ e) :
    let root := sqrtCore Format.binary64 m e
    52 ≤ root.1.log2 ∧ -537 ≤ root.1.log2 + root.2.1 := by
  -- The root of `m * 2 ^ e` is taken of `m` shifted by an even remainder, half of the exponent apart.
  obtain ⟨target, half⟩ :
      ∃ t, t = min (e / 2) (max ((m.log2 + 1 + e + 1) / 2 - 53) (-1074)) := ⟨_, rfl⟩
  obtain ⟨shift, even⟩ : ∃ k : ℕ, k = (e - 2 * target).toNat := ⟨_, rfl⟩
  have parts : (sqrtCore Format.binary64 m e).1 = Nat.sqrt (m <<< shift) ∧
      (sqrtCore Format.binary64 m e).2.1 = target := by
    rw [even, half]
    exact ⟨rfl, rfl⟩
  have scaled : m.log2 + shift ≤ (m <<< shift).log2 := by
    have := log2_mul positive (Nat.two_pow_pos shift)
    rwa [Nat.log2_two_pow, ← Nat.shiftLeft_eq] at this
  have shifted : 0 < m <<< shift := by
    rw [Nat.shiftLeft_eq]
    exact Nat.mul_pos positive (Nat.two_pow_pos shift)
  have root := half_log2_le_log2_sqrt shifted
  intro
  rw [parts.1, parts.2]
  omega

private theorem not_small_pack {s : Sign} {m : ℕ} {e : ℤ} {positive : 0 < m} (stored : Stored m e)
    (large : -537 ≤ m.log2 + e) :
    NotSmall (unpack Format.binary64
      (UnpackedFloat.pack Format.binary64 (.finite s m e positive))) := by
  have bits : 52 ≤ m.log2 := by
    have := stored.bits
    have := stored.full_or_least
    omega
  rcases unpack_pack positive stored with whole | infinite
  · rw [whole]
    exact ⟨bits, large⟩
  · rw [infinite]
    exact trivial

private theorem sqrt_not_small (x : Float.Model) : NotSmall x.sqrt.unpack := by
  change NotSmall (unpack Format.binary64 (UnpackedFloat.pack Format.binary64
    (UnpackedFloat.sqrt Format.binary64 x.unpack)))
  rcases form : x.unpack with (_ | _) | _ | s | ⟨_ | _, m, e, positive⟩
  case finite.positive =>
    obtain ⟨bits, large⟩ := sqrtCore_leading positive (unpack_exponent_ge form)
    simp only [UnpackedFloat.sqrt]
    generalize sqrtCore Format.binary64 m e = root at *
    obtain ⟨m', e', positive', rounded, stored, leading⟩ :=
      roundWithAccuracy_finite .positive root.2.2 bits (e := root.2.1) (by omega)
    rw [rounded]
    exact not_small_pack stored (by omega)
  all_goals
    simp [UnpackedFloat.sqrt, UnpackedFloat.pack, UnpackedFloat.unpack, NotSmall, packedInfinity,
      packedNaN, packedZero]

/-- The product of numbers that are not small is zero only if one of them is. -/
private theorem mul_ne_zero_of_not_small {x y : Float.Model} (largeX : NotSmall x.unpack)
    (largeY : NotSmall y.unpack) (nonzeroX : ∀ s, x.unpack ≠ .zero s)
    (nonzeroY : ∀ s, y.unpack ≠ .zero s) (s : Sign) : (x * y).unpack ≠ .zero s := by
  change unpack Format.binary64 (UnpackedFloat.pack Format.binary64
    (UnpackedFloat.mul Format.binary64 x.unpack y.unpack)) ≠ .zero s
  revert largeX largeY nonzeroX nonzeroY
  rcases x.unpack with _ | _ | _ | ⟨s₁, m₁, e₁, positive₁⟩ <;>
    rcases y.unpack with _ | _ | _ | ⟨s₂, m₂, e₂, positive₂⟩ <;>
    intro largeX largeY nonzeroX nonzeroY
  case finite.finite =>
    have leading := log2_mul positive₁ positive₂
    obtain ⟨bitsX, leadingX⟩ := largeX
    obtain ⟨bitsY, leadingY⟩ := largeY
    obtain ⟨m, e, positive, rounded, stored, _⟩ :=
      roundWithAccuracy_finite (s₁ * s₂) (m := m₁ * m₂) (e := e₁ + e₂) .exact (by omega) (by omega)
    have packed := unpack_pack (s := s₁ * s₂) positive stored
    rw [UnpackedFloat.mul, rounded]
    rcases packed with whole | infinite
    · rw [whole]
      exact UnpackedFloat.noConfusion
    · rw [infinite]
      exact UnpackedFloat.noConfusion
  all_goals
    simp_all [UnpackedFloat.mul, UnpackedFloat.pack, UnpackedFloat.unpack, packedInfinity, packedNaN]

private theorem beq_zero_iff {x : Float} :
    (x == 0) = true ↔ ∃ s, x.toModel.unpack = .zero s := by
  change x.toModel.unpack.beq (.zero .positive) = true ↔ _
  rcases x.toModel.unpack with (_ | _) | _ | _ | ⟨_ | _, _, _, _⟩ <;>
    simp [UnpackedFloat.beq, UnpackedFloat.compare]

theorem divides_roots (x y : Float) : Ranking.divides x.sqrt y.sqrt = true := by
  by_cases zeroX : (x.sqrt == 0) = true
  · simp [Ranking.divides, zeroX]
  · by_cases zeroY : (y.sqrt == 0) = true
    · simp [Ranking.divides, zeroY]
    · have product : ¬ (x.sqrt * y.sqrt == 0) = true := by
        rw [beq_zero_iff] at zeroX zeroY ⊢
        rintro ⟨s, zero⟩
        exact mul_ne_zero_of_not_small (sqrt_not_small x.toModel) (sqrt_not_small y.toModel)
          (fun s here => zeroX ⟨s, here⟩) (fun s here => zeroY ⟨s, here⟩) s zero
      simp [Ranking.divides, bne, product]

/-- A cosine of two vectors with their own lengths always has a value. -/
theorem similarity_of_lengths (query doc : WeightVector) :
    Ranking.similarity? query doc query.length doc.length =
      .ok (Ranking.similarity query doc query.length doc.length) := by
  rw [Ranking.similarity?, if_pos]
  exact divides_roots query.squares doc.squares

end Concordance.LengthProduct
