import Mathlib

/-!
The order of floating-point numbers. Every number has a place in a linear order; numbers other than NaN
are compared as their places are. The two zeros share a place. A change of sign turns every comparison
round.
-/
namespace Concordance.FloatOrder

open Float.Model Float.Model.UnpackedFloat

section
variable {a b : UnpackedFloat}

/-- The place of an unpacked number: larger exponents are further from zero, and mantissas are compared
among equal exponents. NaN comes after everything else. -/
def unpackedPlace : UnpackedFloat → ℤ ×ₗ ℤ ×ₗ ℤ
  | .infinity .negative => toLex (-2, toLex (0, 0))
  | .finite .negative mantissa exponent _ => toLex (-1, toLex (-exponent, -mantissa))
  | .zero _ => toLex (0, toLex (0, 0))
  | .finite .positive mantissa exponent _ => toLex (1, toLex (exponent, mantissa))
  | .infinity .positive => toLex (2, toLex (0, 0))
  | .notANumber => toLex (3, toLex (0, 0))

-- What follows goes through the pairs of shapes; only finite numbers of one sign compare anything else.

private theorem compare_self (s : Sign) : compare s s = .eq := by cases s <;> rfl

private theorem compare_signs : compare Sign.negative Sign.positive = .lt := rfl

private theorem unpacked_lt_iff (numberA : a ≠ .notANumber) (numberB : b ≠ .notANumber) :
    a.lt b = true ↔ unpackedPlace a < unpackedPlace b := by
  rcases a with (_ | _) | _ | _ | ⟨_ | _, m, e, _⟩ <;>
    rcases b with (_ | _) | _ | _ | ⟨_ | _, n, f, _⟩ <;>
    simp_all [UnpackedFloat.lt, UnpackedFloat.compare, unpackedPlace, Prod.Lex.toLex_lt_toLex,
      Ordering.then_eq_lt, Ordering.then_eq_gt, compare_lt_iff_lt, compare_gt_iff_gt, compare_signs]

private theorem unpacked_beq_iff (numberA : a ≠ .notANumber) (numberB : b ≠ .notANumber) :
    a.beq b = true ↔ unpackedPlace a = unpackedPlace b := by
  rcases a with (_ | _) | _ | _ | ⟨_ | _, m, e, _⟩ <;>
    rcases b with (_ | _) | _ | _ | ⟨_ | _, n, f, _⟩ <;>
    simp_all [UnpackedFloat.beq, UnpackedFloat.compare, unpackedPlace, compare_self]

private theorem compare_neg (a b : UnpackedFloat) : a.neg.compare b.neg = b.compare a := by
  rcases a with (_ | _) | _ | _ | ⟨_ | _, m, e, _⟩ <;>
    rcases b with (_ | _) | _ | _ | ⟨_ | _, n, f, _⟩ <;>
    simp [UnpackedFloat.neg, UnpackedFloat.compare, Neg.neg, compare_self, Ordering.swap_then,
      Int.compare_swap, Nat.compare_swap]

end

/-! ## Signs

A change of sign flips one bit of the packed number, so nothing is lost when the result is packed. -/

private theorem unpack_components (s : Sign) (exponent : BitVec Format.binary64.exponentBits)
    (mantissa : BitVec Format.binary64.mantissaBitsWithoutImplicit) :
    unpack Format.binary64 (packComponents Format.binary64 (-s) exponent mantissa) =
      (unpack Format.binary64 (packComponents Format.binary64 s exponent mantissa)).neg := by
  simp only [UnpackedFloat.unpack, unpackSign_packComponents, unpackExponent_packComponents,
    unpackMantissa_packComponents, Sign.ofBitVec_toBitVec]
  split
  · split <;> rfl
  · split
    · split <;> rfl
    · rfl

private theorem pack_neg (a : UnpackedFloat) (number : a ≠ .notANumber) :
    ∃ s exponent mantissa,
      UnpackedFloat.pack Format.binary64 a = packComponents Format.binary64 s exponent mantissa ∧
      UnpackedFloat.pack Format.binary64 a.neg =
        packComponents Format.binary64 (-s) exponent mantissa := by
  rcases a with s | _ | s | ⟨s, m, e, _⟩
  · exact ⟨s, _, _, rfl, rfl⟩
  · exact absurd rfl number
  · exact ⟨s, _, _, rfl, rfl⟩
  · simp only [UnpackedFloat.neg, UnpackedFloat.pack]
    split
    · exact ⟨s, _, _, rfl, rfl⟩
    · split
      · exact ⟨s, _, _, rfl, rfl⟩
      · exact ⟨s, _, _, rfl, rfl⟩

private theorem unpack_neg (x : Float.Model) : (-x).unpack = x.unpack.neg := by
  change unpack Format.binary64 (UnpackedFloat.pack Format.binary64 x.unpack.neg) = x.unpack.neg
  have whole : unpack Format.binary64 (UnpackedFloat.pack Format.binary64 x.unpack) = x.unpack :=
    congrArg (unpack Format.binary64) (pack_unpack_of_valid x.valid)
  -- NaN has no sign to change; it is packed as it was.
  by_cases number : x.unpack = .notANumber
  · rw [number] at whole ⊢
    exact whole
  · obtain ⟨s, exponent, mantissa, plain, negated⟩ := pack_neg x.unpack number
    rw [negated, unpack_components, ← plain, whole]

/-! ## Comparisons -/

section
variable {x y : Float}

/-- The place of a floating-point number in ascending order. -/
def place (x : Float) : ℤ ×ₗ ℤ ×ₗ ℤ := unpackedPlace x.toModel.unpack

private theorem lt_iff_unpacked : x < y ↔ x.toModel.unpack.lt y.toModel.unpack = true :=
  decide_eq_true_iff

private theorem unpack_ne (number : x.isNaN = false) : x.toModel.unpack ≠ .notANumber := by
  intro nan
  change x.toModel.unpack.isNaN = false at number
  rw [nan] at number
  exact Bool.noConfusion number

theorem lt_iff_place (numberX : x.isNaN = false) (numberY : y.isNaN = false) :
    x < y ↔ place x < place y :=
  lt_iff_unpacked.trans (unpacked_lt_iff (unpack_ne numberX) (unpack_ne numberY))

theorem beq_iff_place (numberX : x.isNaN = false) (numberY : y.isNaN = false) :
    (x == y) = true ↔ place x = place y :=
  unpacked_beq_iff (unpack_ne numberX) (unpack_ne numberY)

/-- A change of sign turns an inequality round. -/
@[simp] theorem neg_lt_neg_iff : -x < -y ↔ y < x := by
  rw [lt_iff_unpacked, lt_iff_unpacked]
  change ((-x.toModel).unpack.compare (-y.toModel).unpack == some .lt) = true ↔
    (y.toModel.unpack.compare x.toModel.unpack == some .lt) = true
  rw [unpack_neg, unpack_neg, compare_neg]

@[simp] theorem neg_beq_neg : (-x == -y) = (x == y) := by
  rw [BEq.comm (a := x)]
  change ((-x.toModel).unpack.compare (-y.toModel).unpack == some .eq) =
    (y.toModel.unpack.compare x.toModel.unpack == some .eq)
  rw [unpack_neg, unpack_neg, compare_neg]

end
end Concordance.FloatOrder
