/-!
Floating-point numbers as exact values: a finite one is a natural number times a power of two. The
way back rounds a quotient of natural numbers to the nearest floating-point number.
-/
namespace Concordance

-- Powers mean the same whatever else is imported.
attribute [local instance (high)] instPowNat

/-- What a floating-point number stands for. -/
inductive Double where
  | nan
  | infinite (negative : Bool)
  /-- `mantissa * 2 ^ exponent`; zero keeps its sign. -/
  | finite (negative : Bool) (mantissa : Nat) (exponent : Int)
  deriving Repr, DecidableEq

namespace Double

/-- The least mantissa of 53 bits. -/
def leastMantissa : Nat := 0x10000000000000

/-- The exact value of a floating-point number. -/
def ofFloat (x : Float) : Double :=
  let bits := x.toBits
  let negative := bits >>> 63 == 1
  let exponent := ((bits >>> 52) &&& 0x7FF).toNat
  let fraction := (bits &&& 0xFFFFFFFFFFFFF).toNat
  if exponent == 0x7FF then if fraction == 0 then infinite negative else nan
  else if exponent == 0 then finite negative fraction (-1074)
  else finite negative (leastMantissa + fraction) (exponent - 1075)

/-- The quotient rounded to the nearest natural number, a tie to the even one. -/
def roundDiv (num den : Nat) : Nat :=
  let low := num / den
  let rest := num % den
  if 2 * rest < den then low
  else if den < 2 * rest then low + 1
  else if low % 2 == 0 then low else low + 1

/-- The floating-point number with the given sign, 53-bit mantissa and exponent. -/
def assemble (negative : Bool) (mantissa : Nat) (exponent : Int) : Float :=
  let magnitude :=
    if mantissa < leastMantissa then mantissa
    else (exponent + 1075).toNat * leastMantissa + (mantissa - leastMantissa)
  Float.ofBits (UInt64.ofNat ((if negative then 0x8000000000000000 else 0) + magnitude))

/-- The power of two by which the mantissa of `num / den` is scaled: it gives the mantissa 53 bits,
or fewer only where the exponent is the smallest there is. -/
def scaleOf (num den : Nat) : Int :=
  let guess : Int := (num.log2 : Int) - (den.log2 : Int) - 52
  -- At this scale the quotient has 52 or 53 bits.
  let fits (scale : Int) : Bool :=
    num * 2 ^ (-scale).toNat ≥ den * 2 ^ scale.toNat * leastMantissa
  max (-1074) (if fits guess then guess else guess - 1)

/-- The floating-point number nearest to `num / den`, a tie to the even mantissa; none if it is
beyond the largest one. -/
def nearest? (negative : Bool) (num den : Nat) : Option Float :=
  if num = 0 then some (assemble negative 0 (-1074))
  else
    let scale := scaleOf num den
    let mantissa := roundDiv (num * 2 ^ (-scale).toNat) (den * 2 ^ scale.toNat)
    let (mantissa, scale) :=
      if mantissa = 2 * leastMantissa then (leastMantissa, scale + 1) else (mantissa, scale)
    if 971 < scale then none else some (assemble negative mantissa scale)

def nanFloat : Float := Float.ofBits 0x7FF8000000000000

def infinityFloat (negative : Bool) : Float :=
  Float.ofBits (if negative then 0xFFF0000000000000 else 0x7FF0000000000000)

/-- The floating-point number nearest to `digits * 10 ^ exponent`, infinite if it is too large. -/
def ofDecimal (negative : Bool) (digits : Nat) (exponent : Int) : Float :=
  (nearest? negative (digits * 10 ^ exponent.toNat) (10 ^ (-exponent).toNat)).getD
    (infinityFloat negative)

/-- The floating-point number nearest to an integer; none if it is too large. -/
def ofInt? (n : Int) : Option Float := nearest? (n < 0) n.natAbs 1

end Double
end Concordance
