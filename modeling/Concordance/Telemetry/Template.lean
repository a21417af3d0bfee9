import Concordance.Number.Logarithm
import Concordance.Telemetry.Datum.Display

/-!
Message templates. A directive starts with a percent sign and takes one argument: it may name the
argument, set flags, a width and a precision, and ends in the letter of a conversion. A template is read
character by character; every argument must be taken.
-/
namespace Concordance

-- Powers mean the same whatever else is imported.
attribute [local instance (high)] instPowNat

/-- Why a template cannot be filled in. -/
inductive TemplateError where
  | tooFewArguments
  | tooManyArguments
  /-- The template ends inside a directive. -/
  | unfinished
  /-- The template ends inside the name of an argument. -/
  | unfinishedName
  /-- An argument is named, but the arguments have no names. -/
  | unnamedArguments
  /-- No argument has the name. -/
  | unknownName (name : Text)
  /-- A width or a precision that is taken from the arguments is no integer. -/
  | sizeNotInteger
  | unknownConversion (letter : Char) (index : Nat)
  /-- A decimal conversion of something that is no number. -/
  | notReal (letter : Char) (kind : Text)
  /-- An octal or hexadecimal conversion of something that is no integer. -/
  | notInteger (letter : Char) (kind : Text)
  /-- A floating-point conversion of something that is no number. -/
  | notNumber (kind : Text)
  | notCharacter
  | characterTooLarge
  /-- An integer that no floating-point number is near to. -/
  | integerTooLarge
  | nanToInteger
  | infinityToInteger
  deriving Repr, DecidableEq

def TemplateError.message : TemplateError → Text
  | .tooFewArguments => "not enough arguments for format string".toList
  | .tooManyArguments => "not all arguments converted during string formatting".toList
  | .unfinished => "incomplete format".toList
  | .unfinishedName => "incomplete format key".toList
  | .unnamedArguments => "format requires a mapping".toList
  | .unknownName name => Text.quoted name
  | .sizeNotInteger => "* wants int".toList
  | .unknownConversion letter index =>
    let shown := if 31 ≤ letter.toNat && letter.toNat ≤ 126 then letter else '?'
    "unsupported format character '".toList ++ shown :: "' (0x".toList ++
      Nat.toDigits 16 letter.toNat ++ ") at index ".toList ++ Integer.decimalNat index
  | .notReal letter kind =>
    '%' :: letter :: " format: a real number is required, not ".toList ++ kind
  | .notInteger letter kind => '%' :: letter :: " format: an integer is required, not ".toList ++ kind
  | .notNumber kind => "must be real number, not ".toList ++ kind
  | .notCharacter => "%c requires int or char".toList
  | .characterTooLarge => "%c arg not in range(0x110000)".toList
  | .integerTooLarge => "int too large to convert to float".toList
  | .nanToInteger => "cannot convert float NaN to integer".toList
  | .infinityToInteger => "cannot convert float infinity to integer".toList

/-- The arguments of a template. -/
inductive Arguments where
  | positional (rest : List Datum)
  /-- Arguments with names, and the one that the directive at hand has named. -/
  | named (entries : List (Text × Datum)) (next : Option Datum)

namespace Arguments

/-- Data as arguments: a single map that is not empty gives its entries as named arguments. -/
def ofData : List Datum → Arguments
  | [.map (entry :: entries)] => named (entry :: entries) (some (.map (entry :: entries)))
  | data => positional data

/-- Takes the next argument. -/
def take : Arguments → Except TemplateError (Datum × Arguments)
  | positional (datum :: rest) => .ok (datum, positional rest)
  | named entries (some datum) => .ok (datum, named entries none)
  | _ => .error .tooFewArguments

/-- Makes a named argument the next one. -/
def choose (name : Text) : Arguments → Except TemplateError Arguments
  | positional _ => .error .unnamedArguments
  | named entries _ =>
    match entries.find? (·.1 == name) with
    | some (_, datum) => .ok (named entries (some datum))
    | none => .error (.unknownName name)

/-- Checks that every argument was taken; named ones need not be. -/
def finish : Arguments → Except TemplateError Unit
  | positional (_ :: _) => .error .tooManyArguments
  | _ => .ok ()

end Arguments

/-- What a directive says about the form of its argument. -/
structure Directive where
  left : Bool
  plus : Bool
  space : Bool
  alternate : Bool
  zero : Bool
  width : Nat
  precision : Option Nat
  deriving Repr, DecidableEq

namespace Directive

/-- The directive that says nothing. -/
def plain : Directive := ⟨false, false, false, false, false, 0, none⟩

/-- The directive with one more flag. -/
def flag? (directive : Directive) : Char → Option Directive
  | '-' => some { directive with left := true }
  | '+' => some { directive with plus := true }
  | ' ' => some { directive with space := true }
  | '#' => some { directive with alternate := true }
  | '0' => some { directive with zero := true }
  | _ => none

/-- Fills a text up to the width. -/
def fill (directive : Directive) (t : Text) : Text :=
  if directive.left then Text.padRight directive.width t else Text.padLeft ' ' directive.width t

/-- Fills a number up to the width, with zeros behind its sign and marker if the flag says so. -/
def fillNumber (directive : Directive) (negative : Bool) (marker digits : Text) : Text :=
  let sign :=
    if negative then ['-'] else if directive.plus then ['+'] else if directive.space then [' '] else []
  let lead := sign ++ marker
  if directive.zero && !directive.left then
    lead ++ Text.padLeft '0' (directive.width - lead.length) digits
  else directive.fill (lead ++ digits)

/-- A text, cut to the precision. -/
def word (directive : Directive) (t : Text) : Text :=
  directive.fill (match directive.precision with
    | some places => t.take places
    | none => t)

/-- An integer in one of the bases. -/
def integer (directive : Directive) (base : Nat) (marker : Text) (n : Int) : Text :=
  directive.fillNumber (n < 0) (if directive.alternate then marker else [])
    (Text.padLeft '0' (directive.precision.getD 1) (Nat.toDigits base n.natAbs))

/-- A floating-point number whose finite magnitudes are written by `magnitude`. -/
def floating (directive : Directive) (magnitude : Nat → Nat → Int → Text) (x : Float) : Text :=
  match Double.ofFloat x with
  | .nan => directive.fillNumber false [] "nan".toList
  | .infinite negative => directive.fillNumber negative [] "inf".toList
  | .finite negative mantissa exponent =>
    directive.fillNumber negative [] (magnitude (directive.precision.getD 6) mantissa exponent)

end Directive

namespace Template

/-- The kind of a datum as errors name it. -/
def kindOf : Datum → Text
  | .null => "NoneType".toList
  | .bool _ => "bool".toList
  | .int _ => "int".toList
  | .float _ => "float".toList
  | .complex _ _ => "complex".toList
  | .text _ => "str".toList
  | .path _ => "PosixPath".toList
  | .bytes fixed _ => if fixed then "bytes".toList else "bytearray".toList
  | .error kind _ => kind
  | .list _ => "list".toList
  | .tuple _ => "tuple".toList
  | .set fixed _ => if fixed then "frozenset".toList else "set".toList
  | .map _ => "dict".toList

/-- The integer of a decimal conversion: a floating-point number loses its places. -/
def wholeOf (letter : Char) : Datum → Except TemplateError Int
  | .bool value => .ok value.toNat
  | .int value => .ok value
  | .float value =>
    match Double.ofFloat value with
    | .nan => .error .nanToInteger
    | .infinite _ => .error .infinityToInteger
    | .finite negative mantissa exponent =>
      let whole : Nat := mantissa * 2 ^ exponent.toNat / 2 ^ (-exponent).toNat
      .ok (if negative then -(whole : Int) else whole)
  | other => .error (.notReal letter (kindOf other))

/-- The integer of an octal or hexadecimal conversion. -/
def integerOf (letter : Char) : Datum → Except TemplateError Int
  | .bool value => .ok value.toNat
  | .int value => .ok value
  | other => .error (.notInteger letter (kindOf other))

/-- The number of a floating-point conversion. -/
def floatOf : Datum → Except TemplateError Float
  | .bool value => .ok (if value then 1 else 0)
  | .float value => .ok value
  | .int value =>
    match Double.ofInt? value with
    | some x => .ok x
    | none => .error .integerTooLarge
  | other => .error (.notNumber (kindOf other))

/-- The character of a character conversion. -/
def characterOf : Datum → Except TemplateError Char
  | .text [c] => .ok c
  | .bool value => .ok (Char.ofNat value.toNat)
  | .int value =>
    if 0 ≤ value && value < 0x110000 then .ok (Char.ofNat value.toNat) else .error .characterTooLarge
  | _ => .error .notCharacter

/-- A text with everything beyond the basic characters escaped. -/
def basic (t : Text) : Text := t.flatMap fun c => if c.toNat < 128 then [c] else Text.escapeHex c.toNat

/-- A text in basic capitals. -/
def capitals (t : Text) : Text := t.map Char.toUpper

/-- A magnitude with an exponent; the point is kept if the flag says so. -/
def scientific (keepPoint : Bool) (places mantissa : Nat) (exponent : Int) : Text :=
  let t := FloatText.scientificMagnitude places mantissa exponent
  if keepPoint && places = 0 then t.take 1 ++ '.' :: t.drop 1 else t

/-- A magnitude with a set number of places; the point is kept if the flag says so. -/
def fixed (keepPoint : Bool) (places mantissa : Nat) (exponent : Int) : Text :=
  let t := FloatText.fixedMagnitude places mantissa exponent
  if keepPoint && places = 0 then t ++ ['.'] else t

/-- Converts an argument. -/
def convert (directive : Directive) (letter : Char) (index : Nat) (datum : Datum) :
    Except TemplateError Text :=
  let alternate := directive.alternate
  match letter with
  | 's' => .ok (directive.word datum.display)
  | 'r' => .ok (directive.word datum.quoted)
  | 'a' => .ok (directive.word (basic datum.quoted))
  | 'c' => (characterOf datum).map fun c => directive.fill [c]
  | 'd' | 'i' | 'u' => (wholeOf letter datum).map (directive.integer 10 [])
  | 'o' => (integerOf letter datum).map (directive.integer 8 ['0', 'o'])
  | 'x' => (integerOf letter datum).map (directive.integer 16 ['0', 'x'])
  | 'X' => (integerOf letter datum).map fun n => capitals (directive.integer 16 ['0', 'x'] n)
  | 'e' => (floatOf datum).map (directive.floating (scientific alternate))
  | 'E' => (floatOf datum).map fun x => capitals (directive.floating (scientific alternate) x)
  | 'f' => (floatOf datum).map (directive.floating (fixed alternate))
  | 'F' => (floatOf datum).map fun x => capitals (directive.floating (fixed alternate) x)
  | 'g' => (floatOf datum).map (directive.floating (FloatText.generalMagnitude alternate))
  | 'G' =>
    (floatOf datum).map fun x =>
      capitals (directive.floating (FloatText.generalMagnitude alternate) x)
  | _ => .error (.unknownConversion letter index)

/-- Where in a directive the next character stands. -/
inductive Place where
  /-- Outside of any directive. -/
  | outside
  /-- Directly behind the percent sign. -/
  | opened
  /-- In a name, inside as many open brackets, with what was read of it in reverse. -/
  | name (brackets : Nat) (read : Text)
  | flags
  | width
  /-- Behind a width that was taken from the arguments. -/
  | widthTaken
  /-- Directly behind the point. -/
  | point
  | precision
  /-- Behind a precision that was taken from the arguments. -/
  | precisionTaken
  /-- Behind a letter for the size of an integer, which says nothing. -/
  | sized
  deriving Repr, DecidableEq

/-- A template as far as it was read, its text in reverse. -/
structure Progress where
  written : Text
  arguments : Arguments
  place : Place
  directive : Directive
  index : Nat

namespace Progress

/-- Adds text. -/
def add (progress : Progress) (t : Text) : Progress :=
  { progress with written := t.reverse ++ progress.written }

/-- Goes on at another place. -/
def moved (progress : Progress) (place : Place) : Progress := { progress with place := place }

/-- Reads the letter of a conversion; a second percent sign stands for itself. -/
def conversion (progress : Progress) (c : Char) : Except TemplateError Progress :=
  if c = '%' then .ok ((progress.add ['%']).moved .outside)
  else do
    let (datum, arguments) ← progress.arguments.take
    let t ← convert progress.directive c progress.index datum
    return ({ progress with arguments := arguments }.add t).moved .outside

/-- Reads what follows the precision. -/
def size (progress : Progress) (c : Char) : Except TemplateError Progress :=
  if c = 'h' || c = 'l' || c = 'L' then .ok (progress.moved .sized) else progress.conversion c

/-- Reads what follows the width. -/
def afterWidth (progress : Progress) (c : Char) : Except TemplateError Progress :=
  if c = '.' then
    .ok ({ progress with directive := { progress.directive with precision := some 0 } }.moved .point)
  else progress.size c

/-- Takes an integer from the arguments. -/
def takeSize (progress : Progress) : Except TemplateError (Int × Progress) := do
  let (datum, arguments) ← progress.arguments.take
  match datum with
  | .int n => return (n, { progress with arguments := arguments })
  | .bool value => return (value.toNat, { progress with arguments := arguments })
  | _ => .error .sizeNotInteger

/-- Reads a digit of the width, or what follows it. -/
def widthDigit (progress : Progress) (c : Char) : Except TemplateError Progress :=
  if c.isDigit then
    let width := progress.directive.width * 10 + (c.toNat - '0'.toNat)
    .ok ({ progress with directive := { progress.directive with width := width } }.moved .width)
  else progress.afterWidth c

/-- Reads a flag, or what follows the flags. A negative width moves the text to the left. -/
def flags (progress : Progress) (c : Char) : Except TemplateError Progress :=
  match progress.directive.flag? c with
  | some directive => .ok ({ progress with directive := directive }.moved .flags)
  | none =>
    if c = '*' then do
      let (n, progress) ← progress.takeSize
      let directive :=
        { progress.directive with width := n.natAbs, left := progress.directive.left || n < 0 }
      return { progress with directive := directive }.moved .widthTaken
    else progress.widthDigit c

/-- Reads a digit of the precision, or what follows it. -/
def precisionDigit (progress : Progress) (c : Char) : Except TemplateError Progress :=
  if c.isDigit then
    let places := progress.directive.precision.getD 0 * 10 + (c.toNat - '0'.toNat)
    .ok ({ progress with directive := { progress.directive with precision := some places } }.moved
      .precision)
  else progress.size c

/-- Reads what follows the point. -/
def afterPoint (progress : Progress) (c : Char) : Except TemplateError Progress :=
  if c = '*' then do
    let (n, progress) ← progress.takeSize
    return { progress with directive := { progress.directive with precision := some n.toNat } }.moved
      .precisionTaken
  else progress.precisionDigit c

/-- Reads a character of a name; the bracket that closes it makes the argument the next one. -/
def nameCharacter (progress : Progress) (brackets : Nat) (read : Text) (c : Char) :
    Except TemplateError Progress :=
  if c = ')' && brackets = 0 then
    (progress.arguments.choose read.reverse).map fun arguments =>
      { progress with arguments := arguments }.moved .flags
  else
    let brackets := if c = '(' then brackets + 1 else if c = ')' then brackets - 1 else brackets
    .ok (progress.moved (.name brackets (c :: read)))

/-- Reads the character directly behind the percent sign. -/
def opening (progress : Progress) (c : Char) : Except TemplateError Progress :=
  if c = '(' then
    match progress.arguments with
    | .positional _ => .error .unnamedArguments
    | .named _ _ => .ok (progress.moved (.name 0 []))
  else progress.flags c

/-- Reads one character. -/
def read (progress : Progress) (c : Char) : Except TemplateError Progress :=
  match progress.place with
  | .outside =>
    if c = '%' then .ok ({ progress with directive := .plain }.moved .opened)
    else .ok (progress.add [c])
  | .opened => progress.opening c
  | .name brackets t => progress.nameCharacter brackets t c
  | .flags => progress.flags c
  | .width => progress.widthDigit c
  | .widthTaken => progress.afterWidth c
  | .point => progress.afterPoint c
  | .precision => progress.precisionDigit c
  | .precisionTaken => progress.size c
  | .sized => progress.conversion c

/-- Reads one character and moves on to the next one. -/
def step (progress : Progress) (c : Char) : Except TemplateError Progress :=
  (progress.read c).map fun progress => { progress with index := progress.index + 1 }

/-- The text of a template that was read to its end. -/
def finish (progress : Progress) : Except TemplateError Text :=
  match progress.place with
  | .outside => progress.arguments.finish.map fun _ => progress.written.reverse
  | .name _ _ => .error .unfinishedName
  | _ => .error .unfinished

end Progress

/-- The text of a template with its arguments. -/
def fill (template : Text) (arguments : Arguments) : Except TemplateError Text := do
  (← template.foldlM Progress.step ⟨[], arguments, .outside, .plain, 0⟩).finish

/-- A message with data. A message without data is no template. -/
def message (template : Text) (data : List Datum) : Except TemplateError Text :=
  if data.isEmpty then .ok template else fill template (.ofData data)

end Template
end Concordance
