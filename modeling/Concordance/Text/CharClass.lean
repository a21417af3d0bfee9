import Concordance.Text.Basic

/-!
Classes of characters, given by ranges of code points as the character database lists them: blanks, which
separate words, and the decimal digits of all scripts.
-/
namespace Concordance.Text

/-- Whether a code point lies in one of the ranges, both ends included. -/
def inRanges (ranges : List (Nat × Nat)) (c : Char) : Bool :=
  ranges.any fun (first, last) => first ≤ c.toNat && c.toNat ≤ last

/-- Every `step`-th code point from `first` to `last`, with the distance to its counterpart in
the other case. -/
structure Run where
  first : Nat
  last : Nat
  step : Nat
  shift : Int

/-- Whether the run lists a character. -/
def Run.holds (run : Run) (c : Char) : Bool :=
  run.first ≤ c.toNat && c.toNat ≤ run.last && (c.toNat - run.first) % run.step == 0

/-! ## Blanks

The class is that of the bidirectional types B, S and WS and of the space separators, so it also holds the four
information separators, the no-break space and the line and paragraph separators. -/

/-- The ranges of blank characters. -/
def blankRanges : List (Nat × Nat) :=
  [(9, 13), (28, 32), (133, 133), (160, 160), (5760, 5760), (8192, 8202), (8232, 8233),
    (8239, 8239), (8287, 8287), (12288, 12288)]

/-- Whether a character separates words. -/
def isBlank (c : Char) : Bool := inRanges blankRanges c

/-- Whether a character belongs to a word. -/
def isInk (c : Char) : Bool := !isBlank c

/-- The text without the blanks at both ends. -/
def trim (t : Text) : Text := dropEndWhile isBlank (t.dropWhile isBlank)

/-- The maximal runs of characters that are not blank, in order. -/
def words (t : Text) : List Text :=
  match _atWord : t.dropWhile isBlank with
  | [] => []
  | c :: rest => (c :: rest.takeWhile isInk) :: words (rest.dropWhile isInk)
termination_by t.length
decreasing_by
  have shorter : (rest.dropWhile isInk).length ≤ rest.length :=
    (List.dropWhile_suffix isInk).length_le
  have inside : (t.dropWhile isBlank).length ≤ t.length := (List.dropWhile_suffix isBlank).length_le
  rw [_atWord] at inside
  simp only [List.length_cons] at inside
  omega

/-! ## Digits

Each script has its ten digits in a row, so a digit's value is its distance from the script's zero. -/

/-- The zero of every script that has decimal digits. -/
def digitZeros : List Nat :=
  [48, 1632, 1776, 1984, 2406, 2534, 2662, 2790, 2918, 3046, 3174, 3302, 3430, 3558, 3664, 3792,
    3872, 4160, 4240, 6112, 6160, 6470, 6608, 6784, 6800, 6992, 7088, 7232, 7248, 42528, 43216,
    43264, 43472, 43504, 43600, 44016, 65296, 66720, 68912, 69734, 69872, 69942, 70096, 70384,
    70736, 70864, 71248, 71360, 71472, 71904, 72016, 72784, 73040, 73120, 92768, 92864, 93008,
    120782, 120792, 120802, 120812, 120822, 123200, 123632, 125264, 130032]

/-- The value of a decimal digit of any script. -/
def digitValue? (c : Char) : Option Nat :=
  (digitZeros.find? fun origin => origin ≤ c.toNat && c.toNat < origin + 10).map fun origin =>
    c.toNat - origin

/-- The ten digits in which numbers are written. -/
def digitChar (value : Nat) : Char := Char.ofNat ('0'.toNat + value)

end Concordance.Text
