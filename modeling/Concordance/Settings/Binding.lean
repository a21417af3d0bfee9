import Concordance.Text.CharClass

/-!
Files of bindings. A statement binds a name to a value, plain or in quotes; comments and blank lines say
nothing. What cannot be read is passed over up to the end of its line.
-/
namespace Concordance

/-- A name with its value; a name alone has none. -/
structure Binding where
  name : Text
  value : Option Text
  deriving Repr, DecidableEq

/-- What a file of bindings says, in order. -/
inductive Statement where
  | nothing
  | binding (bound : Binding)
  | malformed
  deriving Repr, DecidableEq

namespace Binding

/-- Whether a blank leaves the line as it is. -/
def isInlineBlank (c : Char) : Bool := Text.isBlank c && c != '\n' && c != '\r'

/-- Whether a character ends a line. -/
def isLineEnd (c : Char) : Bool := c = '\n' || c = '\r'

end Binding

namespace Statement

/-- The text behind blanks on the same line. -/
def skipInline (t : Text) : Text := t.dropWhile Binding.isInlineBlank

/-- The word that may stand in front of a name. -/
def exportWord : Text := "export".toList

/-- The text behind the word that may stand in front of a name. -/
def skipExport (t : Text) : Text :=
  let rest := t.drop exportWord.length
  if exportWord.isPrefixOf t && rest.head?.any Binding.isInlineBlank then skipInline rest else t

/-- A name and the rest; a comment has no name. Where nothing can be read, the error is the rest, from
which the statement is passed over. -/
def name (t : Text) : Except Text (Option Text × Text) :=
  match t with
  | '#' :: _ => .ok (none, t)
  | '\'' :: rest =>
    match rest.takeWhile (· != '\''), rest.dropWhile (· != '\'') with
    | c :: more, _ :: after => .ok (some (c :: more), after)
    | _, _ => .error t
  | _ =>
    let isName (c : Char) : Bool := c != '=' && c != '#' && !Text.isBlank c
    match t.takeWhile isName with
    | [] => .error t
    | read => .ok (some read, t.dropWhile isName)

/-- A text up to the quote that ends it, and the rest. A quote behind a backslash ends it only if no
other quote does; `escaped` is the last such place so far. -/
def upToQuote (quote : Char) (read : Text) (escaped : Option (Text × Text)) :
    Text → Option (Text × Text)
  | [] => escaped
  | c :: rest =>
    if c = quote then some (read.reverse, rest)
    else
      match rest with
      | next :: after =>
        if c = '\\' && next = quote then
          upToQuote quote (next :: c :: read) (some ((c :: read).reverse, after)) after
        else upToQuote quote (c :: read) escaped (next :: after)
      | [] => upToQuote quote (c :: read) escaped []

/-- A text with its escapes resolved; a backslash before any other letter stays. -/
def resolve (escapes : List (Char × Char)) : Text → Text
  | [] => []
  | '\\' :: c :: rest =>
    match escapes.find? (·.1 == c) with
    | some (_, meaning) => meaning :: resolve escapes rest
    | none => '\\' :: resolve escapes (c :: rest)
  | c :: rest => c :: resolve escapes rest

/-- The escapes between single quotes. -/
def singleEscapes : List (Char × Char) := [('\\', '\\'), ('\'', '\'')]

/-- The escapes between double quotes. -/
def doubleEscapes : List (Char × Char) :=
  [('\\', '\\'), ('\'', '\''), ('"', '"'), ('a', '\x07'), ('b', '\x08'), ('f', '\x0c'), ('n', '\n'),
    ('r', '\r'), ('t', '\t'), ('v', '\x0b')]

/-- A plain value without a comment behind it. A comment begins with a hash behind a blank. -/
def withoutComment (before : Text) : Text → Text
  | [] => before.reverse
  | c :: rest =>
    if c = '#' && before.head?.any Text.isBlank then before.reverse
    else withoutComment (c :: before) rest

/-- A quoted value behind its opening quote. -/
def quotedValue (quote : Char) (escapes : List (Char × Char)) (t rest : Text) :
    Except Text (Text × Text) :=
  match upToQuote quote [] none rest with
  | some (value, after) => .ok (resolve escapes value, after)
  | none => .error t

def value (t : Text) : Except Text (Text × Text) :=
  match t with
  | '\'' :: rest => quotedValue '\'' singleEscapes t rest
  | '"' :: rest => quotedValue '"' doubleEscapes t rest
  | _ =>
    let line := t.takeWhile fun c => !Binding.isLineEnd c
    .ok (Text.dropEndWhile Text.isBlank (withoutComment [] line), t.drop line.length)

/-- The text behind a comment, if there is one. -/
def skipComment (t : Text) : Text :=
  match skipInline t with
  | '#' :: rest => rest.dropWhile fun c => !Binding.isLineEnd c
  | _ => t

/-- The text behind the end of the line; anything else there is an error. -/
def endOfLine (t : Text) : Except Text Text :=
  match skipInline t with
  | [] => .ok []
  | '\r' :: '\n' :: rest => .ok rest
  | c :: rest => if Binding.isLineEnd c then .ok rest else .error t

/-- The text behind the rest of the line. -/
def skipLine (t : Text) : Text := (t.dropWhile fun c => !Binding.isLineEnd c).drop 1

/-- A statement that says something, and the rest. -/
def parse (t : Text) : Except Text (Statement × Text) := do
  let (name, t) ← name (skipExport t)
  let (value, t) ←
    match skipInline t with
    | '=' :: t => (value (skipInline t)).map fun (v, t) => (some v, t)
    | t => .ok (none, t)
  let t ← endOfLine (skipComment t)
  return (match name with
    | some name => .binding ⟨name, value⟩
    | none => .nothing, t)

/-- The next statement, and the rest. -/
def next (t : Text) : Statement × Text :=
  match t.dropWhile Text.isBlank with
  | [] => (.nothing, [])
  | t =>
    match parse t with
    | .ok found => found
    | .error t => (.malformed, skipLine t)

/-- The statements of a text. A statement takes at least one character, so there are no more of them
than characters. -/
def all (most : Nat) (t : Text) : List Statement :=
  match most with
  | 0 => []
  | more + 1 =>
    if t.isEmpty then []
    else
      let (statement, rest) := next t
      statement :: all more rest

def ofText (t : Text) : List Statement := all t.length t

def bindings (t : Text) : List Binding :=
  (ofText t).filterMap fun statement =>
    match statement with
    | .binding bound => some bound
    | _ => none

end Statement
end Concordance
