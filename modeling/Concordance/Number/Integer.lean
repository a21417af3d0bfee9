import Concordance.Text.CharClass

/-!
Integers in decimal notation. Reading is liberal: digits of any script, single underscores between
digits, a sign, and blanks around the number. A number of more than 4300 digits is not read.
-/
namespace Concordance.Integer

def decimalNat (n : Nat) : Text := Nat.toDigits 10 n

/-- An integer in decimal notation, with a minus sign if it is negative. -/
def decimal (n : Int) : Text :=
  if n < 0 then '-' :: decimalNat n.natAbs else decimalNat n.natAbs

/-- The longest sequence of digits that is read as a number. -/
def digitLimit : Nat := 4300

/-- Blanks that may stand around a number; the four information separators may not. -/
def isMargin (c : Char) : Bool := Text.isBlank c && !(28 ≤ c.toNat && c.toNat ≤ 31)

/-- The values of digits of which neighbours may be separated by one underscore. -/
def digits? : Text → Option (List Nat)
  | [] => none
  | c :: rest =>
    match Text.digitValue? c with
    | none => none
    | some value =>
      match rest with
      | [] => some [value]
      | '_' :: more => (digits? more).map (value :: ·)
      | next :: more => (digits? (next :: more)).map (value :: ·)

/-- The number that a sequence of decimal digits stands for. -/
def ofDigits (values : List Nat) : Nat := values.foldl (fun n value => 10 * n + value) 0

/-- A number without a sign. -/
def readNat? (t : Text) : Option Nat :=
  match digits? t with
  | none => none
  | some values => if values.length ≤ digitLimit then some (ofDigits values) else none

/-- A number with an optional sign, and blanks around it. -/
def read? (t : Text) : Option Int :=
  match Text.dropEndWhile isMargin (t.dropWhile isMargin) with
  | '+' :: body => (readNat? body).map Int.ofNat
  | '-' :: body => (readNat? body).map fun n => -Int.ofNat n
  | body => (readNat? body).map Int.ofNat

end Concordance.Integer
