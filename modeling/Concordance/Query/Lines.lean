import Concordance.Text.Lines

/-!
Queries from a stream: one for each line, without the line end. A stream that has nothing left gives an
empty line, which no line of a text is; that is how reading ends. So a stream is asked for a line once more
than it has lines.
-/
namespace Concordance.QueryLines

/-- Takes one line from a stream: up to its first line feed and with it, or all that is left. What follows
is left in the stream. -/
def takeLine : Text → Text × Text
  | [] => ([], [])
  | c :: rest =>
    if c = '\n' then ([c], rest)
    else
      let (line, left) := takeLine rest
      (c :: line, left)

/-- A line and what it leaves are the stream. -/
theorem takeLine_append (stream : Text) : (takeLine stream).1 ++ (takeLine stream).2 = stream := by
  induction stream with
  | nil => rfl
  | cons c rest ih =>
    simp only [takeLine]
    split
    · rfl
    · simp [ih]

/-- What happens while a stream is read. -/
inductive Event where
  /-- The stream is asked for a line. -/
  | asked
  /-- A line was read, which gives a query. -/
  | query (t : Text)
  deriving Repr, DecidableEq

namespace Event

def query? : Event → Option Text
  | asked => none
  | query t => some t

/-- What is written for someone who is prompted. -/
def prompted (prompt : Text) : Event → Text
  | asked => prompt
  | query _ => []

end Event

/-- Reads a stream until it gives an empty line. -/
def events (stream : Text) : List Event :=
  match _line : takeLine stream with
  | ([], _) => [.asked]
  | (c :: line, left) => .asked :: .query (Text.chomp (c :: line)) :: events left
termination_by stream.length
decreasing_by
  have whole := takeLine_append stream
  rw [_line] at whole
  rw [← whole]
  simp only [List.length_append, List.length_cons]
  omega

def ofText (t : Text) : List Text := (events t).filterMap Event.query?

/-- How often the stream is read. -/
def reads (t : Text) : Nat := (events t).count .asked

/-- Everything that prompts write while a stream is read. -/
def prompts (prompt : Text) (t : Text) : Text := (events t).flatMap (Event.prompted prompt)

end Concordance.QueryLines
