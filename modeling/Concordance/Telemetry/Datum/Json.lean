import Concordance.Json.Basic
import Concordance.Telemetry.Datum.Display
import Concordance.Text.Utf8

/-!
Data as JSON. What JSON has no form for is written as a text or, if it is a collection, as an array.
Only an integer beyond 64 bits has no form at all.
-/
namespace Concordance

/-- Why a datum has no JSON form. -/
inductive DatumError where
  | integerTooLarge
  deriving Repr, DecidableEq

def DatumError.message : DatumError → String
  | .integerTooLarge => "Integer exceeds 64-bit range"

namespace Datum

/-- Whether an integer fits into 64 bits, with or without a sign. -/
def fits (n : Int) : Bool := -0x8000000000000000 ≤ n && n < 0x10000000000000000

mutual

/-- The JSON form of a datum. -/
def json : Datum → Except DatumError Json
  | null => .ok .null
  | bool value => .ok (.bool value)
  | int value => if fits value then .ok (.int value) else .error .integerTooLarge
  | float value => .ok (.float value)
  | complex re im => .ok (.text (complexText re im))
  | text value => .ok (.text value)
  | path value => .ok (.text value.text)
  | bytes _ octets => .ok (.text (Utf8.decodeReplacing octets))
  | error _ wording => .ok (.text wording)
  | list items => return .array (← (jsonItems items).mapM id)
  | tuple items => return .array (← (jsonItems items).mapM id)
  | set _ items => return .array (← (arrange items (jsonItems items)).mapM id)
  | map entries => return .object (← jsonEntries entries)

/-- The JSON form of each item of a collection, if it has one. -/
def jsonItems : List Datum → List (Except DatumError Json)
  | [] => []
  | item :: items => json item :: jsonItems items

def jsonEntries : List (Text × Datum) → Except DatumError (List (Text × Json))
  | [] => .ok []
  | (key, value) :: entries => return (key, ← json value) :: (← jsonEntries entries)

end

end Datum
end Concordance
