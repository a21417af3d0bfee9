import Concordance.Text.Basic

/-!
Lines. A file's lines may end in a line feed, a carriage return or both together; once read, every
line ends in one line feed.
-/
namespace Concordance.Text

/-- Every line end becomes one line feed. -/
def unifyNewlines : Text → Text
  | [] => []
  | '\r' :: '\n' :: rest => '\n' :: unifyNewlines rest
  | '\r' :: rest => '\n' :: unifyNewlines rest
  | c :: rest => c :: unifyNewlines rest

/-- The lines of a text, each with the line feed that ends it; the last one may lack it. -/
def linesKeepingEnds : Text → List Text
  | [] => []
  | c :: rest =>
    if c = '\n' then ['\n'] :: linesKeepingEnds rest
    else
      match linesKeepingEnds rest with
      | [] => [[c]]
      | line :: lines => (c :: line) :: lines

/-- Whether a character can end a line. -/
def isLineEnd (c : Char) : Bool := c = '\r' || c = '\n'

/-- The line without the line end characters at its end. -/
def chomp (line : Text) : Text := dropEndWhile isLineEnd line

/-- The lines put together are the text. -/
theorem flatten_linesKeepingEnds (t : Text) : (linesKeepingEnds t).flatten = t := by
  induction t with
  | nil => rfl
  | cons c rest ih =>
    simp only [linesKeepingEnds]
    split
    next newline => simp [ih, newline]
    next =>
      split
      next none =>
        rw [none] at ih
        simp only [List.flatten_nil] at ih
        simp [← ih]
      next line lines split =>
        rw [split] at ih
        simpa using ih

end Concordance.Text
