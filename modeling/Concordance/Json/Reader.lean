import Concordance.Json.Basic

/-!
Reading JSON. A number with a point or an exponent is a floating-point number, any other is an integer;
the fields of an object keep their order.
-/
namespace Concordance.Json

def hexValue? (c : Char) : Option Nat :=
  if c.isDigit then some (c.toNat - '0'.toNat)
  else if 'a' ≤ c && c ≤ 'f' then some (c.toNat - 'a'.toNat + 10)
  else if 'A' ≤ c && c ≤ 'F' then some (c.toNat - 'A'.toNat + 10)
  else none

/-- The number that hexadecimal digits stand for. -/
def hexNumber? (digits : Text) : Option Nat :=
  digits.foldlM (fun n c => (hexValue? c).map (n * 16 + ·)) 0

/-- The character that a letter behind a backslash stands for. -/
def escaped (c : Char) : Char :=
  match c with
  | 'n' => '\n'
  | 't' => '\t'
  | 'r' => '\r'
  | 'b' => '\x08'
  | 'f' => '\x0c'
  | other => other

/-- The character of two code units that make one character together. -/
def pairValue? (high low : Nat) : Option Char :=
  if 0xD800 ≤ high && high < 0xDC00 && 0xDC00 ≤ low && low < 0xE000 then
    some (Char.ofNat (0x10000 + (high - 0xD800) * 0x400 + (low - 0xDC00)))
  else none

/-- The character of a numeric escape at the beginning of a text, and what follows it. -/
def unit? : Text → Option (Nat × Text)
  | '\\' :: 'u' :: a :: b :: c :: d :: rest => (hexNumber? [a, b, c, d]).map fun n => (n, rest)
  | _ => none

/-- The characters of a string behind its opening quote, and what follows the closing one. -/
def readString (fuel : Nat) (t : Text) : Option (Text × Text) :=
  match fuel with
  | 0 => none
  | fuel + 1 =>
    let go (c : Char) (rest : Text) : Option (Text × Text) :=
      (readString fuel rest).map fun (s, after) => (c :: s, after)
    match unit? t with
    | some (high, rest) =>
      match (unit? rest).bind fun (low, more) => (pairValue? high low).map fun c => (c, more) with
      | some (c, more) => go c more
      | none => go (Char.ofNat high) rest
    | none =>
      match t with
      | [] => none
      | '"' :: rest => some ([], rest)
      | '\\' :: c :: rest => go (escaped c) rest
      | c :: rest => go c rest

/-- Whether a character can stand between the parts of a value. -/
def isSpace (c : Char) : Bool := c = ' ' || c = '\t' || c = '\n' || c = '\r'

/-- Whether a character can be part of a number. -/
def isNumeric (c : Char) : Bool := c.isDigit || "+-.eE".toList.contains c

def readNumber (t : Text) : Option Json :=
  if t.any ".eE".toList.contains then (FloatText.read? t).map float else (Integer.read? t).map int

mutual

/-- The value at the beginning of a text, and what follows it. -/
def readValue (fuel : Nat) (t : Text) : Option (Json × Text) :=
  match fuel with
  | 0 => none
  | fuel + 1 =>
    match t.dropWhile isSpace with
    | 'n' :: 'u' :: 'l' :: 'l' :: rest => some (null, rest)
    | 't' :: 'r' :: 'u' :: 'e' :: rest => some (bool true, rest)
    | 'f' :: 'a' :: 'l' :: 's' :: 'e' :: rest => some (bool false, rest)
    | '"' :: rest => (readString (rest.length + 1) rest).map fun (s, rest) => (text s, rest)
    | '[' :: rest =>
      match rest.dropWhile isSpace with
      | ']' :: rest => some (array [], rest)
      | rest => (readItems fuel rest).map fun (items, rest) => (array items, rest)
    | '\x7b' :: rest =>
      match rest.dropWhile isSpace with
      | '\x7d' :: rest => some (object [], rest)
      | rest => (readFields fuel rest).map fun (fields, rest) => (object fields, rest)
    | rest => (readNumber (rest.takeWhile isNumeric)).map fun n => (n, rest.dropWhile isNumeric)

/-- The items of an array up to its closing bracket. -/
def readItems (fuel : Nat) (t : Text) : Option (List Json × Text) :=
  match fuel with
  | 0 => none
  | fuel + 1 => do
    let (item, rest) ← readValue fuel t
    match rest.dropWhile isSpace with
    | ',' :: rest =>
      let (items, rest) ← readItems fuel rest
      return (item :: items, rest)
    | ']' :: rest => return ([item], rest)
    | _ => none

/-- The fields of an object up to its closing bracket. -/
def readFields (fuel : Nat) (t : Text) : Option (List (Text × Json) × Text) :=
  match fuel with
  | 0 => none
  | fuel + 1 => do
    match t.dropWhile isSpace with
    | '"' :: rest =>
      let (name, rest) ← readString (rest.length + 1) rest
      match rest.dropWhile isSpace with
      | ':' :: rest =>
        let (value, rest) ← readValue fuel rest
        match rest.dropWhile isSpace with
        | ',' :: rest =>
          let (fields, rest) ← readFields fuel rest
          return ((name, value) :: fields, rest)
        | '\x7d' :: rest => return ([(name, value)], rest)
        | _ => none
      | _ => none
    | _ => none

end

/-- The value that a text spells. -/
def read? (t : Text) : Option Json := do
  let (value, rest) ← readValue (2 * t.length + 2) t
  if (rest.dropWhile isSpace).isEmpty then some value else none

end Concordance.Json
