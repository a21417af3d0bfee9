import Concordance.Text.CharClass
import Concordance.Text.Quoted

/-!
The syntax of command lines. A word is an option if it begins with a dash and names a parameter, in full
or by a beginning that no other name has; other words are operands. A word of two dashes makes operands of
all words behind it. Words are taken from left to right, and what has no use is left over.
-/
namespace Concordance.CommandLine

/-- A parameter that is given by name. -/
structure Parameter where
  names : List Text
  takesValue : Bool
  /-- Why a value cannot be used, if it cannot. -/
  refusal : Text → Option Text

/-- What operands are for. -/
inductive Operand where
  /-- There are none. -/
  | absent
  /-- One or more, which stand together. -/
  | several (name : Text)
  /-- A command with everything behind it. -/
  | command (name : Text)
  deriving Repr, DecidableEq

/-- What a program takes from its command line. The first parameter asks for help. -/
structure Grammar where
  program : Text
  help : Parameter
  parameters : List Parameter
  operand : Operand

/-- Why a command line is refused. -/
inductive UsageError where
  | noValue (names : List Text)
  | needlessValue (names : List Text) (value : Text)
  | refused (names : List Text) (refusal : Text)
  | ambiguous (word : Text) (candidates : List Text)
  | missing (names : List Text)
  | leftOver (words : List Text)
  deriving Repr, DecidableEq

/-- A parameter as errors name it. -/
def argumentText (names : List Text) : Text :=
  "argument ".toList ++ Text.join ['/'] names ++ ": ".toList

def UsageError.message : UsageError → Text
  | noValue names => argumentText names ++ "expected one argument".toList
  | needlessValue names value =>
    argumentText names ++ "ignored explicit argument ".toList ++ Text.quoted value
  | refused names refusal => argumentText names ++ refusal
  | ambiguous word candidates =>
    "ambiguous option: ".toList ++ word ++ " could match ".toList ++
      Text.join ", ".toList candidates
  | missing names =>
    "the following arguments are required: ".toList ++ Text.join ", ".toList names
  | leftOver words => "unrecognized arguments: ".toList ++ Text.join [' '] words

/-- Why a program ends before it begins. -/
inductive Exit where
  | help
  | usage (program : Text) (error : UsageError)
  deriving Repr, DecidableEq

namespace Exit

def status : Exit → Nat
  | help => 0
  | usage _ _ => 2

/-- The last line that an exit writes to the error stream; help writes none. -/
def message : Exit → Text
  | help => []
  | usage program error => program ++ ": error: ".toList ++ error.message

end Exit

/-- A parameter as it is meant by a word: which one, by which of its names, and with which value. -/
structure Mention where
  parameter : Parameter
  name : Text
  value : Option Text

/-- A word of a command line. -/
inductive Word where
  | operand (text : Text)
  | separator
  | mention (text : Text) (mention : Mention)
  | unknown (text : Text)

namespace Word

def text : Word → Text
  | operand t => t
  | separator => ['-', '-']
  | mention t _ => t
  | unknown t => t

/-- Whether a word is no option. -/
def isPlain : Word → Bool
  | operand _ => true
  | separator => true
  | _ => false

/-- Whether words begin with an operand, separators aside. -/
def leadsWithOperand : List Word → Bool
  | separator :: words => leadsWithOperand words
  | operand _ :: _ => true
  | _ => false

end Word

namespace Grammar

def all (grammar : Grammar) : List Parameter := grammar.help :: grammar.parameters

def parameter? (grammar : Grammar) (name : Text) : Option Parameter :=
  grammar.all.find? (·.names.contains name)

/-- What a word may mean that is no name of a parameter: the beginning of a long name, with a value
behind an equals sign; or a short name with its value directly behind it. -/
def candidates (grammar : Grammar) (word : Text) : List Mention :=
  let named := grammar.all.flatMap fun parameter => parameter.names.map fun name => (parameter, name)
  match word with
  | '-' :: '-' :: _ =>
    let (beginning, value) :=
      match Text.cutAt? ['='] word with
      | some (beginning, value) => (beginning, some value)
      | none => (word, none)
    named.filterMap fun (parameter, name) =>
      if beginning.isPrefixOf name then some ⟨parameter, name, value⟩ else none
  | _ =>
    named.filterMap fun (parameter, name) =>
      if name = word.take 2 then some ⟨parameter, name, some (word.drop 2)⟩
      else if word.isPrefixOf name then some ⟨parameter, name, none⟩
      else none

/-- Whether a word looks like a negative number. -/
def isNegativeNumber (word : Text) : Bool :=
  let isDigit (c : Char) : Bool := (Text.digitValue? c).isSome
  match word with
  | '-' :: body =>
    match body.dropWhile isDigit with
    | [] => !body.isEmpty
    | '.' :: places => !places.isEmpty && places.all isDigit
    | _ => false
  | _ => false

/-- The mention of a parameter by its full name, with or without a value behind an equals sign. -/
def spelled? (grammar : Grammar) (word : Text) : Option Mention :=
  match grammar.parameter? word with
  | some parameter => some ⟨parameter, word, none⟩
  | none =>
    (Text.cutAt? ['='] word).bind fun (name, value) =>
      (grammar.parameter? name).map fun parameter => ⟨parameter, name, some value⟩

/-- Reads one word. -/
def word (grammar : Grammar) (t : Text) : Except UsageError Word :=
  if t.head? != some '-' || t = ['-'] then .ok (.operand t)
  else
    match grammar.spelled? t with
    | some mention => .ok (.mention t mention)
    | none =>
      match grammar.candidates t with
      | [mention] => .ok (.mention t mention)
      | [] => .ok (if isNegativeNumber t || t.contains ' ' then .operand t else .unknown t)
      | several => .error (.ambiguous t (several.map Mention.name))

/-- Reads words; behind a separator all are operands. -/
def words (grammar : Grammar) : List Text → Except UsageError (List Word)
  | [] => .ok []
  | t :: ts =>
    if t = ['-', '-'] then .ok (.separator :: ts.map .operand)
    else return (← grammar.word t) :: (← words grammar ts)

end Grammar

/-- A parameter that was given, with its value if it takes one. -/
structure Given where
  parameter : Parameter
  value : Option Text

/-- Whether a name is a single letter behind one dash. -/
def isShort (name : Text) : Bool := name[1]? != some '-'

/-- The parameters that one word gives, and whether the next word is the value of the last one. Short
names without values may stand together in one word. -/
def Grammar.giveValue (grammar : Grammar) (parameter : Parameter) (name : Text) :
    Text → Except UsageError (List Given × Option Parameter)
  | [] =>
    if parameter.takesValue then .ok ([⟨parameter, some []⟩], none)
    else .error (.needlessValue parameter.names [])
  | c :: rest =>
    if parameter.takesValue then .ok ([⟨parameter, some (c :: rest)⟩], none)
    else if isShort name then
      match grammar.parameter? ['-', c] with
      | none => .error (.needlessValue parameter.names (c :: rest))
      | some next =>
        if rest.isEmpty then
          if next.takesValue then .ok ([⟨parameter, none⟩], some next)
          else .ok ([⟨parameter, none⟩, ⟨next, none⟩], none)
        else
          (grammar.giveValue next ['-', c] rest).map fun (given, pending) =>
            (⟨parameter, none⟩ :: given, pending)
    else .error (.needlessValue parameter.names (c :: rest))

/-- The parameters that a mention gives, and the one that needs the next word as its value. -/
def Grammar.give (grammar : Grammar) (mention : Mention) :
    Except UsageError (List Given × Option Parameter) :=
  match mention.value with
  | some value => grammar.giveValue mention.parameter mention.name value
  | none =>
    if mention.parameter.takesValue then .ok ([], some mention.parameter)
    else .ok ([⟨mention.parameter, none⟩], none)

/-- What was found on a command line. -/
structure Found where
  given : List Given
  operands : Option (List Text)
  leftOver : List Text

namespace Found

def nothing : Found := ⟨[], none, []⟩

end Found

namespace Grammar

/-- Checks parameters in order: a request for help ends everything, and so does a value that cannot
be used. -/
def check (grammar : Grammar) : List Given → Except Exit Unit
  | [] => .ok ()
  | given :: rest =>
    if given.parameter.names = grammar.help.names then .error .help
    else
      match given.value.bind given.parameter.refusal with
      | some refusal => .error (.usage grammar.program (.refused given.parameter.names refusal))
      | none => check grammar rest

/-- The parameters that a mention gives, with the value from the next word where one is needed, and the
words behind. -/
def settle (grammar : Grammar) (mention : Mention) (rest : List Word) :
    Except Exit (List Given × List Word) := do
  let refuse (error : UsageError) : Exit := .usage grammar.program error
  let (given, waiting) ← (grammar.give mention).mapError refuse
  match waiting, rest with
  | none, rest => return (given, rest)
  | some parameter, .operand value :: rest => return (given ++ [⟨parameter, some value⟩], rest)
  | some parameter, _ => .error (refuse (.noValue parameter.names))

theorem length_settle {grammar : Grammar} {mention : Mention} {rest after : List Word}
    {given : List Given} (settled : grammar.settle mention rest = .ok (given, after)) :
    after.length ≤ rest.length := by
  simp only [settle, bind, Except.bind] at settled
  split at settled
  · cases settled
  · split at settled
    · cases settled
      exact Nat.le_refl _
    · cases settled
      exact Nat.le_succ _
    · cases settled

/-- Takes words from left to right; `found` is what was found before, and operands are only taken once. -/
def take (grammar : Grammar) (found : Found) (words : List Word) : Except Exit Found :=
  match words with
  | [] => .ok found
  | .mention _ mention :: rest =>
    match _settled : grammar.settle mention rest with
    | .error exit => .error exit
    | .ok (given, after) =>
      match grammar.check given with
      | .error exit => .error exit
      | .ok () => grammar.take { found with given := found.given ++ given } after
  | .unknown t :: rest => grammar.take { found with leftOver := found.leftOver ++ [t] } rest
  | word :: rest =>
    let plain := word :: rest.takeWhile Word.isPlain
    let after := rest.dropWhile Word.isPlain
    if found.operands.isNone && Word.leadsWithOperand plain then
      match grammar.operand with
      | .command _ => .ok { found with operands := some ((word :: rest).map Word.text) }
      | .several _ =>
        grammar.take { found with operands := some ((plain.map Word.text).erase ['-', '-']) } after
      | .absent => grammar.take { found with leftOver := found.leftOver ++ plain.map Word.text } after
    else grammar.take { found with leftOver := found.leftOver ++ plain.map Word.text } after
termination_by words.length
decreasing_by
  · have := length_settle _settled
    simp only [List.length_cons]
    omega
  · simp
  all_goals
    have := (List.dropWhile_suffix (l := rest) Word.isPlain).length_le
    simp only [List.length_cons]
    omega

/-- Reads a command line. -/
def read (grammar : Grammar) (arguments : List Text) : Except Exit Found := do
  let refuse (error : UsageError) : Exit := .usage grammar.program error
  let words ← (grammar.words arguments).mapError refuse
  let found ← grammar.take .nothing words
  match grammar.operand, found.operands with
  | .several name, none => .error (refuse (.missing [name]))
  | .command name, none => .error (refuse (.missing [name]))
  | _, _ => return found

end Grammar
end Concordance.CommandLine
