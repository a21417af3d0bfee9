import Concordance.Text.Basic

/-!
UTF-8. A character is read from its lead octet, which says how many octets follow and in which range
the first of them lies; what stops a character short is either invalid or, at the end of the octets,
incomplete. Reading is strict (the first trouble stops it) or replacing (each trouble becomes one
replacement character).
-/
namespace Concordance.Utf8

-- Powers mean the same whatever else is imported.
attribute [local instance (high)] instPowNat

/-- The octets of one character. -/
def encodeChar (c : Char) : List UInt8 :=
  let n := c.toNat
  let tail (k : Nat) : UInt8 := UInt8.ofNat (0x80 + n / 64 ^ k % 64)
  if n < 0x80 then [UInt8.ofNat n]
  else if n < 0x800 then [UInt8.ofNat (0xC0 + n / 64), tail 0]
  else if n < 0x10000 then [UInt8.ofNat (0xE0 + n / 0x1000), tail 1, tail 0]
  else [UInt8.ofNat (0xF0 + n / 0x40000), tail 2, tail 1, tail 0]

def encode (t : Text) : List UInt8 := t.flatMap encodeChar

/-- Why octets are no character. -/
inductive Reason where
  | invalidStart
  | invalidContinuation
  | endOfData
  deriving Repr, DecidableEq

def Reason.message : Reason → String
  | .invalidStart => "invalid start byte"
  | .invalidContinuation => "invalid continuation byte"
  | .endOfData => "unexpected end of data"

/-- What the octets at one place hold. -/
inductive Item where
  /-- A character and the number of its octets. -/
  | char (c : Char) (length : Nat)
  /-- Octets that begin no character. -/
  | invalid (length : Nat) (reason : Reason)
  /-- The beginning of a character at the end of the octets. -/
  | incomplete
  deriving Repr, DecidableEq

/-- The number of octets that follow a lead octet, the value of its own bits, and the range of the
octet that comes next. -/
def lead? (b : UInt8) : Option (Nat × Nat × UInt8 × UInt8) :=
  if b < 0x80 then some (0, b.toNat, 0x80, 0xBF)
  else if b < 0xC2 then none
  else if b < 0xE0 then some (1, b.toNat - 0xC0, 0x80, 0xBF)
  else if b = 0xE0 then some (2, 0, 0xA0, 0xBF)
  else if b = 0xED then some (2, 0xD, 0x80, 0x9F)
  else if b < 0xF0 then some (2, b.toNat - 0xE0, 0x80, 0xBF)
  else if b = 0xF0 then some (3, 0, 0x90, 0xBF)
  else if b < 0xF4 then some (3, b.toNat - 0xF0, 0x80, 0xBF)
  else if b = 0xF4 then some (3, 4, 0x80, 0x8F)
  else none

/-- Reads the `missing` octets that follow, after `length` octets with the value `value`. -/
def follow (missing length value : Nat) (low high : UInt8) : List UInt8 → Item
  | [] => if missing = 0 then .char (Char.ofNat value) length else .incomplete
  | b :: rest =>
    match missing with
    | 0 => .char (Char.ofNat value) length
    | more + 1 =>
      if low ≤ b ∧ b ≤ high then
        follow more (length + 1) (value * 64 + b.toNat % 64) 0x80 0xBF rest
      else .invalid length .invalidContinuation

/-- What stands at the beginning of octets that are not empty. -/
def item (b : UInt8) (rest : List UInt8) : Item :=
  match lead? b with
  | none => .invalid 1 .invalidStart
  | some (missing, value, low, high) => follow missing 1 value low high rest

/-- The text of the octets, each trouble replaced by the replacement character. -/
def decodeReplacing : List UInt8 → Text
  | [] => []
  | b :: rest =>
    match item b rest with
    | .char c length => c :: decodeReplacing (rest.drop (length - 1))
    | .invalid length _ => '\uFFFD' :: decodeReplacing (rest.drop (length - 1))
    | .incomplete => ['\uFFFD']
termination_by bytes => bytes.length

/-- Octets that are no text: where the trouble begins, the octets in question, and the reason. -/
structure Fault where
  position : Nat
  octets : List UInt8
  reason : Reason
  deriving Repr, DecidableEq

/-- Where strict reading stopped: the rest of the octets, and the trouble if it is invalid. -/
structure Stop where
  rest : List UInt8
  fault : Option Fault
  deriving Repr, DecidableEq

/-- Reads characters as long as they are complete. -/
def decodeWhile (position : Nat) : List UInt8 → Text × Stop
  | [] => ([], ⟨[], none⟩)
  | b :: rest =>
    match item b rest with
    | .char c length =>
      let (t, stop) := decodeWhile (position + length) (rest.drop (length - 1))
      (c :: t, stop)
    | .invalid length reason => ([], ⟨b :: rest, some ⟨position, (b :: rest).take length, reason⟩⟩)
    | .incomplete => ([], ⟨b :: rest, none⟩)
termination_by bytes => bytes.length

def Fault.message (fault : Fault) : Text :=
  let hexDigits (b : UInt8) := Text.padLeft '0' 2 (Nat.toDigits 16 b.toNat)
  let number (n : Nat) := Nat.toDigits 10 n
  "'utf-8' codec can't decode ".toList ++
    (match fault.octets with
    | [b] => "byte 0x".toList ++ hexDigits b ++ " in position ".toList ++ number fault.position
    | octets =>
      "bytes in position ".toList ++ number fault.position ++ '-' ::
        number (fault.position + octets.length - 1)) ++
    ": ".toList ++ fault.reason.message.toList

/-- The text of octets that are read in one piece, or the first fault in them. -/
def decode (octets : List UInt8) : Except Fault Text :=
  match decodeWhile 0 octets with
  | (_, ⟨_, some fault⟩) => .error fault
  | (t, ⟨[], none⟩) => .ok t
  | (_, ⟨rest, none⟩) => .error ⟨octets.length - rest.length, rest, .endOfData⟩

/-- The octets of a file arrive in pieces of this length. -/
def pieceLength : Nat := 8192

/-- A file as far as it could be read: its text, and the fault that stopped the reading. -/
structure Reading where
  text : Text
  fault : Option Fault
  deriving Repr, DecidableEq

/-- Reads a file piece by piece, strictly. An incomplete character at the end of a piece is read
again with the next one, so positions count from the beginning of what is read together. A piece
with a fault contributes no text. -/
def readPieces (carried bytes : List UInt8) : Reading :=
  if _done : bytes = [] then
    match carried with
    | [] => ⟨[], none⟩
    | octets => ⟨[], some ⟨0, octets, .endOfData⟩⟩
  else
    let (t, stop) := decodeWhile 0 (carried ++ bytes.take pieceLength)
    match stop.fault with
    | some fault => ⟨[], some fault⟩
    | none =>
      let later := readPieces stop.rest (bytes.drop pieceLength)
      ⟨t ++ later.text, later.fault⟩
termination_by bytes.length
decreasing_by
  have : bytes.length ≠ 0 := by simpa using _done
  simp only [List.length_drop, pieceLength]
  omega

/-- The text of a file, or the fault that makes it unreadable. -/
def read (bytes : List UInt8) : Reading := readPieces [] bytes

end Concordance.Utf8
