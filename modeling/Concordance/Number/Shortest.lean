import Concordance.Number.Double

/-!
The shortest decimal that identifies a floating-point number: of all decimals that round to it, one
with the fewest digits, and of those the nearest. The search runs over the decimal grids from coarse
to fine; on each only the two neighbours of the exact value can be hit.
-/
namespace Concordance

-- Powers mean the same whatever else is imported.
attribute [local instance (high)] instPowNat

/-- The number `digits * 10 ^ exponent`. -/
structure Decimal where
  digits : Nat
  exponent : Int
  deriving Repr, DecidableEq

namespace Decimal

/-- Compares `a * 10 ^ i` with `b * 2 ^ j`. -/
def compareScaled (a : Nat) (i : Int) (b : Nat) (j : Int) : Ordering :=
  compare (a * 10 ^ i.toNat * 2 ^ (-j).toNat) (b * 2 ^ j.toNat * 10 ^ (-i).toNat)

/-- Whether a decimal rounds to `mantissa * 2 ^ exponent`: it lies no further away than half the
distance to the neighbour on its side, and the middle itself belongs to an even mantissa. -/
def identifies (d : Decimal) (mantissa : Nat) (exponent : Int) : Bool :=
  let narrow := mantissa == Double.leastMantissa && exponent != -1074
  let low := compareScaled d.digits d.exponent (4 * mantissa - if narrow then 1 else 2) (exponent - 2)
  let high := compareScaled d.digits d.exponent (4 * mantissa + 2) (exponent - 2)
  let even := mantissa % 2 == 0
  (low == .gt || even && low == .eq) && (high == .lt || even && high == .eq)

/-- The least power of ten above `mantissa * 2 ^ exponent`, for a mantissa that is not zero. -/
def magnitude (mantissa : Nat) (exponent : Int) : Int :=
  let guess := ((mantissa.log2 : Int) + exponent) * 30103 / 100000
  let above (k : Int) : Bool := compareScaled 1 k mantissa exponent == .gt
  (([guess - 1, guess, guess + 1, guess + 2].find? above).getD (guess + 3))

/-- The quotient of `mantissa * 2 ^ exponent` by `10 ^ k`, as numerator and denominator. -/
def quotient (mantissa : Nat) (exponent : Int) (k : Int) : Nat × Nat :=
  (mantissa * 2 ^ exponent.toNat * 10 ^ (-k).toNat, 2 ^ (-exponent).toNat * 10 ^ k.toNat)

/-- The hit on the grid of multiples of `10 ^ k`, the nearer one if both neighbours hit. -/
def hit? (mantissa : Nat) (exponent : Int) (k : Int) : Option Decimal :=
  let (num, den) := quotient mantissa exponent k
  let below : Decimal := ⟨num / den, k⟩
  let above : Decimal := ⟨num / den + 1, k⟩
  match below.identifies mantissa exponent, above.identifies mantissa exponent with
  | true, true => some ⟨Double.roundDiv num den, k⟩
  | true, false => some below
  | false, true => some above
  | false, false => none

/-- Moves the zeros at the end of the digits into the exponent. -/
def normalize (d : Decimal) : Decimal :=
  if _nonzero : d.digits = 0 then d
  else if d.digits % 10 = 0 then normalize ⟨d.digits / 10, d.exponent + 1⟩ else d
termination_by d.digits
decreasing_by exact Nat.div_lt_self (by omega) (by decide)

/-- The shortest decimal that identifies `mantissa * 2 ^ exponent`. Seventeen digits always do. -/
def shortest (mantissa : Nat) (exponent : Int) : Decimal :=
  if mantissa = 0 then ⟨0, 0⟩
  else
    let top := magnitude mantissa exponent
    let grids := (List.range 17).map fun (n : Nat) => top - 1 - (n : Int)
    let finest :=
      let (num, den) := quotient mantissa exponent (top - 17)
      (⟨Double.roundDiv num den, top - 17⟩ : Decimal)
    ((grids.findSome? (hit? mantissa exponent)).getD finest).normalize

/-- The decimal with the given number of significant digits nearest to `mantissa * 2 ^ exponent`, a
tie to the even last digit. -/
def significant (count : Nat) (mantissa : Nat) (exponent : Int) : Decimal :=
  if mantissa = 0 then ⟨0, 1 - count⟩
  else
    let k := magnitude mantissa exponent - count
    let (num, den) := quotient mantissa exponent k
    let digits := Double.roundDiv num den
    if digits = 10 ^ count then ⟨10 ^ (count - 1), k + 1⟩ else ⟨digits, k⟩

end Decimal
end Concordance
