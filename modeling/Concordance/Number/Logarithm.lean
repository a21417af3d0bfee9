import Concordance.Number.Double

/-!
Quotients and decimal logarithms of integers of any size. A quotient is rounded once; a logarithm of
a number beyond the floating-point range is taken from its leading bits and its length in bits.
-/
namespace Concordance

-- Powers mean the same whatever else is imported.
attribute [local instance (high)] instPowNat

/-- Why a number has no floating-point value. -/
inductive NumberError where
  /-- A quotient lies beyond the largest floating-point number. -/
  | quotientTooLarge
  /-- The logarithm of zero. -/
  | logarithmOfZero
  /-- A quotient with a zero divisor. -/
  | divisionByZero
  deriving Repr, DecidableEq

def NumberError.kind : NumberError → String
  | .quotientTooLarge => "OverflowError"
  | .logarithmOfZero => "ValueError"
  | .divisionByZero => "ZeroDivisionError"

def NumberError.message : NumberError → String
  | .quotientTooLarge => "integer division result too large for a float"
  | .logarithmOfZero => "math domain error"
  | .divisionByZero => "float division by zero"

namespace Double

/-- The leading bits of a number as a fraction between one half and one, with the power of two that
it is to be multiplied by. -/
def fraction (n : Nat) : Float × Nat :=
  let bits := n.log2 + 1
  match nearest? false n (2 ^ bits) with
  | none => (0, bits)
  | some x => if x == 1 then (0.5, bits + 1) else (x, bits)

/-- The decimal logarithm of a positive number. -/
def log10Nat (n : Nat) : Float :=
  match nearest? false n 1 with
  | some x => x.log10
  | none =>
    let (x, bits) := fraction n
    x.log10 + (2 : Float).log10 * Float.ofNat bits

/-- The quotient of two natural numbers, rounded once. -/
def quotient (num den : Nat) : Except NumberError Float :=
  match nearest? false num den with
  | some x => .ok x
  | none => .error .quotientTooLarge

/-- The decimal logarithm of a quotient of two positive numbers. -/
def log10Quotient (num den : Nat) : Except NumberError Float := do
  let x ← quotient num den
  if x == 0 then .error .logarithmOfZero else .ok x.log10

end Double
end Concordance
