import Concordance.Number.Integer
import Concordance.Number.Shortest
import Concordance.Text.LetterCase

/-!
Floating-point numbers as text: with the fewest digits that identify them, or with a set number of
places. How a shortest decimal is laid out is a value of its own, so that each format says where
positional notation ends. A text is read as the number nearest to the decimal that it spells: a sign, digits with a
point, and an exponent; or a name for what is not a finite number.
-/
namespace Concordance

-- Powers mean the same whatever else is imported.
attribute [local instance (high)] instPowNat

/-- Where positional notation ends, and how an exponent is written. -/
structure FloatLayout where
  /-- The least decimal exponent of a number written positionally. -/
  least : Int
  /-- The greatest decimal exponent of a number written positionally. -/
  greatest : Int
  /-- The least number of digits of an exponent. -/
  exponentDigits : Nat
  /-- Whether a whole number in positional notation ends in a zero after the point. -/
  markWhole : Bool

namespace FloatText

/-- Plain notation: positional from 0.0001 up to below 10 ^ 16, exponents of two digits. -/
def plain : FloatLayout := ⟨-4, 15, 2, true⟩

/-- Plain notation without a zero after the point of a whole number. -/
def bare : FloatLayout := ⟨-4, 15, 2, false⟩

def sign (negative : Bool) : Text := if negative then ['-'] else []

def exponentText (width : Nat) (e : Int) : Text :=
  (if e < 0 then '-' else '+') :: Text.padLeft '0' width (Integer.decimalNat e.natAbs)

/-- Digits with a point after the first one, if more follow. -/
def pointAfterFirst (digits : Text) : Text :=
  match digits with
  | first :: next :: rest => first :: '.' :: next :: rest
  | other => other

/-- A decimal in positional notation. -/
def positional (markWhole : Bool) (d : Decimal) : Text :=
  if 0 ≤ d.exponent then
    Integer.decimalNat (d.digits * 10 ^ d.exponent.toNat) ++
      (if markWhole then ".0".toList else [])
  else
    let places := (-d.exponent).toNat
    let digits := Text.padLeft '0' (places + 1) (Integer.decimalNat d.digits)
    digits.take (digits.length - places) ++ '.' :: digits.drop (digits.length - places)

/-- A decimal in the given layout. -/
def layOut (layout : FloatLayout) (d : Decimal) : Text :=
  let digits := Integer.decimalNat d.digits
  let leading : Int := d.exponent + digits.length - 1
  if d.digits = 0 || layout.least ≤ leading && leading ≤ layout.greatest then
    positional layout.markWhole d
  else pointAfterFirst digits ++ 'e' :: exponentText layout.exponentDigits leading

/-- A floating-point number with the fewest digits that identify it. -/
def shortest (layout : FloatLayout) (x : Float) : Text :=
  match Double.ofFloat x with
  | .nan => "nan".toList
  | .infinite negative => sign negative ++ "inf".toList
  | .finite negative mantissa exponent =>
    sign negative ++ layOut layout (Decimal.shortest mantissa exponent)

/-- A magnitude with a set number of places, rounded from its exact value, a tie to even. -/
def fixedMagnitude (places : Nat) (mantissa : Nat) (exponent : Int) : Text :=
  let (num, den) := Decimal.quotient mantissa exponent (-places)
  let units := Double.roundDiv num den
  if places = 0 then Integer.decimalNat units else positional false ⟨units, -places⟩

/-- A floating-point number with a set number of places. -/
def fixed (places : Nat) (x : Float) : Text :=
  match Double.ofFloat x with
  | .nan => "nan".toList
  | .infinite negative => sign negative ++ "inf".toList
  | .finite negative mantissa exponent => sign negative ++ fixedMagnitude places mantissa exponent

/-- The given number of significant digits, and the decimal exponent of the first one. -/
def significant (count : Nat) (mantissa : Nat) (exponent : Int) : Text × Int :=
  let d := Decimal.significant count mantissa exponent
  (Text.padLeft '0' count (Integer.decimalNat d.digits),
    if mantissa = 0 then 0 else d.exponent + count - 1)

/-- A magnitude with an exponent and a set number of places. -/
def scientificMagnitude (places : Nat) (mantissa : Nat) (exponent : Int) : Text :=
  let (digits, leading) := significant (places + 1) mantissa exponent
  pointAfterFirst digits ++ 'e' :: exponentText 2 leading

/-- The zeros after the point that end a number, and a point that then ends it, are left out. -/
def withoutTrailingZeros (digits : Text) : Text :=
  if digits.contains '.' then Text.dropEndWhile (· = '.') (Text.dropEndWhile (· = '0') digits)
  else digits

/-- A magnitude with at most the given number of significant digits, positional unless its exponent
is below -4 or not below that number. -/
def generalMagnitude (keepZeros : Bool) (count : Nat) (mantissa : Nat) (exponent : Int) : Text :=
  let count := max count 1
  let tidy (digits : Text) : Text := if keepZeros then digits else withoutTrailingZeros digits
  let (digits, leading) := significant count mantissa exponent
  if -4 ≤ leading && leading < count then
    tidy (fixedMagnitude (count - 1 - leading).toNat mantissa exponent)
  else tidy (pointAfterFirst digits) ++ 'e' :: exponentText 2 leading

/-! ## Reading -/

/-- The number that basic decimal digits stand for. -/
def digitsValue (digits : Text) : Nat :=
  digits.foldl (fun n c => n * 10 + (c.toNat - '0'.toNat)) 0

/-- A number in small letters and without a sign. -/
def readMagnitude? (negative : Bool) (t : Text) : Option Float :=
  if t = "nan".toList then some Double.nanFloat
  else if t = "inf".toList || t = "infinity".toList then some (Double.infinityFloat negative)
  else
    let (mantissa, exponent) := (Text.cutAt? ['e'] t).getD (t, ['0'])
    let (whole, places) := (Text.cutAt? ['.'] mantissa).getD (mantissa, [])
    let digits := whole ++ places
    if digits.isEmpty || !digits.all Char.isDigit then none
    else
      (Integer.read? exponent).map fun exponent =>
        Double.ofDecimal negative (digitsValue digits) (exponent - (places.length : Int))

/-- The number that a text spells, blanks around it aside. -/
def read? (t : Text) : Option Float :=
  match Text.lower (Text.trim t) with
  | '-' :: rest => readMagnitude? true rest
  | '+' :: rest => readMagnitude? false rest
  | rest => readMagnitude? false rest

end FloatText
end Concordance
