/-!
Texts are lists of code points, compared in code point order. This module holds the cuts and joins
that every other module shares; what they say is how a text is put together again from its pieces.
-/
namespace Concordance

/-- A text is the sequence of its code points. -/
abbrev Text := List Char

namespace Text

/-- Code point order: the first difference decides, and a proper beginning comes first. -/
def atMost : Text → Text → Bool
  | [], _ => true
  | _ :: _, [] => false
  | c :: a, d :: b => c.toNat < d.toNat || (c == d && atMost a b)

/-- The texts in ascending code point order, repetitions kept. -/
def sorted (ts : List Text) : List Text := ts.mergeSort atMost

/-- The pieces between the occurrences of a separator; a text without one is its only piece. -/
def splitOn (separator : Char) : Text → List Text
  | [] => [[]]
  | c :: rest =>
    if c = separator then [] :: splitOn separator rest
    else
      match splitOn separator rest with
      | [] => [[c]]
      | piece :: pieces => (c :: piece) :: pieces

/-- The pieces in order, with the separator between neighbours. -/
def join (separator : Text) : List Text → Text
  | [] => []
  | [piece] => piece
  | piece :: next :: pieces => piece ++ separator ++ join separator (next :: pieces)

/-- What follows the first occurrence of `mark`, and what stands before it. -/
def cutAt? (mark : Text) : Text → Option (Text × Text)
  | [] => if mark.isEmpty then some ([], []) else none
  | c :: rest =>
    if mark.isPrefixOf (c :: rest) then some ([], (c :: rest).drop mark.length)
    else (cutAt? mark rest).map fun (before, after) => (c :: before, after)

/-- The text without its longest ending of characters that satisfy `p`. -/
def dropEndWhile (p : Char → Bool) (t : Text) : Text := (t.reverse.dropWhile p).reverse

/-- At least `width` characters, filled up with spaces on the right. -/
def padRight (width : Nat) (t : Text) : Text := t ++ List.replicate (width - t.length) ' '

/-- At least `width` characters, filled up with `fill` on the left. -/
def padLeft (fill : Char) (width : Nat) (t : Text) : Text :=
  List.replicate (width - t.length) fill ++ t

theorem splitOn_ne_nil (separator : Char) (t : Text) : splitOn separator t ≠ [] := by
  cases t with
  | nil => simp [splitOn]
  | cons c rest =>
    simp only [splitOn]
    split
    · simp
    · split <;> simp

/-- Joining the pieces with the separator gives the text back. -/
theorem join_splitOn (separator : Char) (t : Text) :
    join [separator] (splitOn separator t) = t := by
  induction t with
  | nil => rfl
  | cons c rest ih =>
    simp only [splitOn]
    split
    next same =>
      cases pieces : splitOn separator rest with
      | nil => exact absurd pieces (splitOn_ne_nil separator rest)
      | cons piece more =>
        rw [pieces] at ih
        simp [join, ih, same]
    next =>
      cases pieces : splitOn separator rest with
      | nil => exact absurd pieces (splitOn_ne_nil separator rest)
      | cons piece more =>
        rw [pieces] at ih
        cases more with
        | nil => simpa [join] using ih
        | cons next others => simpa [join] using ih

/-- A cut gives back the text around the mark. -/
theorem cutAt?_append {mark t before after : Text} (found : cutAt? mark t = some (before, after)) :
    before ++ mark ++ after = t := by
  induction t generalizing before after with
  | nil =>
    simp only [cutAt?] at found
    split at found
    next none => simp_all
    next => cases found
  | cons c rest ih =>
    simp only [cutAt?] at found
    split at found
    next here =>
      simp only [Option.some.injEq, Prod.mk.injEq] at found
      obtain ⟨rfl, rfl⟩ := found
      obtain ⟨tail, eq⟩ := List.isPrefixOf_iff_prefix.mp here
      rw [← eq]
      simp
    next =>
      obtain ⟨⟨b, a⟩, later, eq⟩ := Option.map_eq_some_iff.mp found
      simp only [Prod.mk.injEq] at eq
      obtain ⟨rfl, rfl⟩ := eq
      simpa using ih later

end Text
end Concordance
