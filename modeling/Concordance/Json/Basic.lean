import Concordance.Number.FloatText

/-!
JSON values and their compact spelling. Only what JSON demands is escaped; numbers that JSON does not
know are written as null.
-/
namespace Concordance

/-- A JSON value. The fields of an object are in the order in which they are written. -/
inductive Json where
  | null
  | bool (value : Bool)
  | int (value : Int)
  | float (value : Float)
  | text (value : Text)
  | array (items : List Json)
  | object (fields : List (Text × Json))
  deriving Inhabited

namespace Json

/-- Numbers are positional from 0.00001 up to below 10 ^ 16, and exponents have no leading zeros. -/
def floatLayout : FloatLayout := ⟨-5, 15, 1, true⟩

/-- A number, or null for one that JSON does not know. -/
def renderFloat (x : Float) : Text :=
  match Double.ofFloat x with
  | .finite _ _ _ => FloatText.shortest floatLayout x
  | _ => "null".toList

def renderChar (c : Char) : Text :=
  match c with
  | '"' => ['\\', '"']
  | '\\' => ['\\', '\\']
  | '\n' => ['\\', 'n']
  | '\r' => ['\\', 'r']
  | '\t' => ['\\', 't']
  | '\x08' => ['\\', 'b']
  | '\x0c' => ['\\', 'f']
  | c =>
    if c.toNat < 0x20 then "\\u".toList ++ Text.padLeft '0' 4 (Nat.toDigits 16 c.toNat) else [c]

def renderText (t : Text) : Text := '"' :: t.flatMap renderChar ++ ['"']

mutual

/-- A value without blanks. -/
def render : Json → Text
  | null => "null".toList
  | bool value => (if value then "true" else "false").toList
  | int value => Integer.decimal value
  | float value => renderFloat value
  | text value => renderText value
  | array items => '[' :: Text.join [','] (renderItems items) ++ [']']
  | object fields => '\x7b' :: Text.join [','] (renderFields fields) ++ ['\x7d']

def renderItems : List Json → List Text
  | [] => []
  | item :: items => render item :: renderItems items

def renderFields : List (Text × Json) → List Text
  | [] => []
  | (name, value) :: fields => (renderText name ++ ':' :: render value) :: renderFields fields

end

end Json
end Concordance
