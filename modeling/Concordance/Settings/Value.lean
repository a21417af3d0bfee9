import Concordance.Number.Integer

/-!
Settings as text. A truth value is one of a few words; an integer may have blanks around it, a sign, zeros
in front, single underscores, and a point with nothing but zeros behind it.
-/
namespace Concordance

/-- Why a text is not the value of a setting. -/
inductive SettingFault where
  | notBool
  | notInteger
  | integerTooLong
  | below (least : Int)
  | above (greatest : Int)
  | notExporter
  deriving Repr, DecidableEq

namespace SettingFault

def kind : SettingFault → String
  | notBool => "bool_parsing"
  | notInteger => "int_parsing"
  | integerTooLong => "int_parsing_size"
  | below _ => "greater_than_equal"
  | above _ => "less_than_equal"
  | notExporter => "literal_error"

def message : SettingFault → Text
  | notBool => "Input should be a valid boolean, unable to interpret input".toList
  | notInteger => "Input should be a valid integer, unable to parse string as an integer".toList
  | integerTooLong => "Unable to parse input string as an integer, exceeded maximum size".toList
  | below least => "Input should be greater than or equal to ".toList ++ Integer.decimal least
  | above greatest => "Input should be less than or equal to ".toList ++ Integer.decimal greatest
  | notExporter => "Input should be 'none' or 'console'".toList

end SettingFault

namespace SettingValue

def trueWords : List Text := ["1", "t", "true", "y", "yes", "on"].map String.toList

def falseWords : List Text := ["0", "f", "false", "n", "no", "off"].map String.toList

/-- A truth value, in letters of either case. -/
def bool (t : Text) : Except SettingFault Bool :=
  let word := t.map Char.toLower
  if trueWords.contains word then .ok true
  else if falseWords.contains word then .ok false
  else .error .notBool

/-- The longest sequence of digits that is read as an integer. -/
def digitLimit : Nat := 4300

/-- A number in basic digits that does not begin with a needless zero. -/
def strictNat (t : Text) : Except SettingFault Nat :=
  if t.isEmpty || !t.all Char.isDigit || (t.head? == some '0' && t.length != 1) then
    .error .notInteger
  else if digitLimit < t.length then .error .integerTooLong
  else .ok (t.foldl (fun n c => 10 * n + (c.toNat - '0'.toNat)) 0)

/-- An integer in basic digits that does not begin with a needless zero. -/
def strict (t : Text) : Except SettingFault Int :=
  match t with
  | '-' :: digits => (strictNat digits).map fun n => -(n : Int)
  | digits => (strictNat digits).map Int.ofNat

/-- A text without the zeros, and the underscores between them, that a number may begin with. What
begins with neither a digit nor a minus sign is no number. -/
def withoutLeadingZeros (t : Text) : Option Text :=
  let isFiller (c : Char) : Bool := c = '0' || c = '_'
  match t with
  | '0' :: rest =>
    match rest.dropWhile isFiller with
    | [] => some (t.drop (t.length - 1))
    | '.' :: _ =>
      -- The last zero stays in front of the point.
      some (t.drop ((rest.takeWhile isFiller).length))
    | c :: more => if c.isDigit then some (c :: more) else none
  | c :: _ => if c.isDigit || c = '-' then some t else none
  | [] => none

/-- A text without a point that only zeros follow. -/
def withoutEmptyPlaces (t : Text) : Text :=
  match Text.cutAt? ['.'] t with
  | some (whole, places) => if places.all (· = '0') then whole else t
  | none => t

/-- A text without underscores, if each of them stands alone between other characters. -/
def withoutUnderscores (t : Text) : Text :=
  if t.head? == some '_' || t.getLast? == some '_' || (Text.cutAt? ['_', '_'] t).isSome then t
  else t.filter (· != '_')

/-- A text with everything that may be left out of a number left out. -/
def tidy (t : Text) : Option Text :=
  let t := Text.dropEndWhile Integer.isMargin (t.dropWhile Integer.isMargin)
  let unsigned := match t with
    | '+' :: '-' :: _ => none
    | '+' :: rest => some rest
    | t => some t
  (unsigned.bind withoutLeadingZeros).map fun t => withoutUnderscores (withoutEmptyPlaces t)

def integer (t : Text) : Except SettingFault Int :=
  match strict t with
  | .error .notInteger =>
    match tidy t with
    | some t => strict t
    | none => .error .notInteger
  | decided => decided

/-- An integer that is not below a bound. -/
def integerFrom (least : Int) (t : Text) : Except SettingFault Int := do
  let n ← integer t
  if n < least then .error (.below least) else .ok n

/-- An integer between two bounds. -/
def integerBetween (least greatest : Int) (t : Text) : Except SettingFault Int := do
  let n ← integerFrom least t
  if greatest < n then .error (.above greatest) else .ok n

end SettingValue
end Concordance
