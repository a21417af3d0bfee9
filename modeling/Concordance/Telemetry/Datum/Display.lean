import Concordance.Number.FloatText
import Concordance.Telemetry.Datum.Basic
import Concordance.Text.Quoted

/-!
Data as text inside messages. A datum is shown either as it is or quoted; the two differ for texts,
paths and errors only, and inside collections everything is quoted.
-/
namespace Concordance.Datum

/-- One octet between quotes. -/
def quoteOctet (quote : Char) (b : UInt8) : Text :=
  let c := Char.ofNat b.toNat
  if c = quote || c = '\\' then ['\\', c]
  else if c = '\n' then ['\\', 'n']
  else if c = '\r' then ['\\', 'r']
  else if c = '\t' then ['\\', 't']
  else if 32 ≤ b.toNat && b.toNat < 127 then [c]
  else '\\' :: 'x' :: Text.hex 2 b.toNat

def quoteOctets (octets : List UInt8) : Text :=
  let quote := Text.quoteFor (octets.map fun b => Char.ofNat b.toNat)
  'b' :: quote :: octets.flatMap (quoteOctet quote) ++ [quote]

/-- A number with its sign, which is a plus for numbers that are not negative. -/
def signed (x : Float) : Text :=
  match FloatText.shortest FloatText.bare x with
  | '-' :: digits => '-' :: digits
  | digits => '+' :: digits

/-- A complex number; a real part that is zero is left out. -/
def complexText (re im : Float) : Text :=
  if re.toBits = 0 then FloatText.shortest FloatText.bare im ++ ['j']
  else '(' :: FloatText.shortest FloatText.bare re ++ signed im ++ ['j', ')']

/-- The items of a collection between brackets. -/
def enclose (opening : String) (items : List Text) (closing : String) : Text :=
  opening.toList ++ Text.join ", ".toList items ++ closing.toList

/-- The items of a set; a set without items has a name. -/
def encloseSet (fixed : Bool) (items : List Text) : Text :=
  match fixed, items with
  | false, [] => "set()".toList
  | true, [] => "frozenset()".toList
  | false, items => enclose "\x7b" items "\x7d"
  | true, items => enclose "frozenset(\x7b" items "\x7d)"

mutual

def quoted : Datum → Text
  | null => "None".toList
  | bool value => (if value then "True" else "False").toList
  | int value => Integer.decimal value
  | float value => FloatText.shortest FloatText.plain value
  | complex re im => complexText re im
  | text value => Text.quoted value
  | path value => "PosixPath(".toList ++ Text.quoted value.text ++ [')']
  | bytes true octets => quoteOctets octets
  | bytes false octets => "bytearray(".toList ++ quoteOctets octets ++ [')']
  | error kind wording => kind ++ '(' :: Text.quoted wording ++ [')']
  | list items => enclose "[" (quotedItems items) "]"
  | tuple [item] => '(' :: quoted item ++ ",)".toList
  | tuple items => enclose "(" (quotedItems items) ")"
  | set fixed items => encloseSet fixed (arrange items (quotedItems items))
  | map entries => enclose "\x7b" (quotedEntries entries) "\x7d"

def quotedItems : List Datum → List Text
  | [] => []
  | item :: items => quoted item :: quotedItems items

def quotedEntries : List (Text × Datum) → List Text
  | [] => []
  | (key, value) :: entries => (Text.quoted key ++ ": ".toList ++ quoted value) :: quotedEntries entries

end

/-- A datum as it is. -/
def display : Datum → Text
  | text value => value
  | path value => value.text
  | error _ wording => wording
  | other => other.quoted

end Concordance.Datum
