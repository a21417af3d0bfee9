import Concordance.Text.CharClass
import Concordance.Text.LetterCase

/-!
Analysis of texts. Documents and queries are cut into tokens at blanks, and the tokens' texts are put
into small letters; a token keeps its number and its place in the text it came from.
-/
namespace Concordance

/-- A word of a text: its number in the text, and where it starts and stops. -/
structure Token where
  text : Text
  position : Int
  start : Int
  stop : Int
  deriving Repr, DecidableEq

inductive TokenChange where
  | text (value : Text)
  | position (value : Int)
  | start (value : Int)
  | stop (value : Int)
  deriving Repr, DecidableEq

namespace Token

def change (token : Token) : TokenChange → Token
  | .text value => { token with text := value }
  | .position value => { token with position := value }
  | .start value => { token with start := value }
  | .stop value => { token with stop := value }

/-- The token with its text in small letters; a text without capitals is left as it is. -/
def lowered (token : Token) : Token :=
  if Text.isLower token.text then token else { token with text := Text.lower token.text }

end Token

namespace Analysis

/-- The tokens of a text that stands at `offset` and whose first token has the number `position`. -/
def scan (position offset : Int) (t : Text) : List Token :=
  let gap := (t.takeWhile Text.isBlank).length
  match _atWord : t.dropWhile Text.isBlank with
  | [] => []
  | c :: rest =>
    let word := c :: rest.takeWhile Text.isInk
    let start := offset + gap
    let stop := start + word.length
    ⟨word, position, start, stop⟩ :: scan (position + 1) stop (rest.dropWhile Text.isInk)
termination_by t.length
decreasing_by
  have shorter : (rest.dropWhile Text.isInk).length ≤ rest.length :=
    (List.dropWhile_suffix Text.isInk).length_le
  have inside : (t.dropWhile Text.isBlank).length ≤ t.length :=
    (List.dropWhile_suffix Text.isBlank).length_le
  rw [_atWord] at inside
  simp only [List.length_cons] at inside
  omega

/-- The maximal runs of a text that hold no blank, as tokens. -/
def tokenize (t : Text) : List Token := scan 0 0 t

/-- The tokens of a text, lowered the given number of times. -/
def tokenizeLowered : Nat → Text → List Token
  | 0, t => tokenize t
  | times + 1, t => (tokenizeLowered times t).map Token.lowered

/-- The tokens under which a text is indexed. -/
def tokens (t : Text) : List Token := tokenizeLowered 1 t

/-- The words under which a text is indexed, in order. -/
def analyze (t : Text) : List Text := (tokens t).map Token.text

end Analysis
end Concordance
