import Concordance.Assoc
import Concordance.Telemetry.Datum.Basic
import Concordance.Text.Quoted

/-!
The trace context: the identifiers that link log records to spans, and any further fields that are to go
along with them. A context without a trace is replaced as a whole when it is asked for.
-/
namespace Concordance

/-- Fields by name, in order. -/
abbrev Context := Assoc Text Datum

/-- Identifiers are numbered in the order in which they are given out. -/
structure Identifiers where
  issued : Nat
  deriving Repr, DecidableEq, Inhabited

namespace Identifiers

def fresh : Identifiers := ⟨0⟩

/-- The number of the next identifier. Numbers start at one, since zero identifies nothing. -/
def next (identifiers : Identifiers) : Nat × Identifiers :=
  (identifiers.issued + 1, ⟨identifiers.issued + 1⟩)

/-- The identifier of a trace: 32 hexadecimal digits. -/
def traceText (n : Nat) : Text := Text.hex 32 n

/-- The identifier of a span: 16 hexadecimal digits. -/
def spanText (n : Nat) : Text := Text.hex 16 n

end Identifiers

/-- Whether a datum says nothing: no number but zero, no text or collection with anything in it. -/
def Datum.isVacant : Datum → Bool
  | .null => true
  | .bool value => !value
  | .int value => value == 0
  | .float value => value == 0
  | .complex re im => re == 0 && im == 0
  | .text value => value.isEmpty
  | .bytes _ octets => octets.isEmpty
  | .list items => items.isEmpty
  | .tuple items => items.isEmpty
  | .set _ items => items.isEmpty
  | .map entries => entries.isEmpty
  | .path _ => false
  | .error _ _ => false

namespace Context

/-- The field that identifies the trace. -/
def traceKey : Text := "trace_id".toList

/-- The field that identifies the span. -/
def spanKey : Text := "span_id".toList

/-- The context of a trace and a span, with further fields. -/
def of (traceId spanId : Text) (extra : List (Text × Datum)) : Context :=
  extra.foldl (fun context (key, value) => context.put key value)
    (Assoc.ofList [(traceKey, .text traceId), (spanKey, .text spanId)])

/-- Whether a context belongs to a trace. -/
def hasTrace (context : Context) : Bool :=
  match context.get? traceKey with
  | some id => !id.isVacant
  | none => false

/-- The context that is in force: the one that is given if it belongs to a trace, and else a new one. -/
def inForce (context : Option Context) (identifiers : Identifiers) : Context × Identifiers :=
  match context with
  | some context =>
    if context.hasTrace then (context, identifiers) else start identifiers
  | none => start identifiers
where
  /-- A new context. -/
  start (identifiers : Identifiers) : Context × Identifiers :=
    let (trace, identifiers) := identifiers.next
    let (span, identifiers) := identifiers.next
    (of (Identifiers.traceText trace) (Identifiers.spanText span) [], identifiers)

/-- The context of another trace and span; all other fields are kept. -/
def link (context : Option Context) (traceId spanId : Text) : Context :=
  ((context.getD ∅).put traceKey (.text traceId)).put spanKey (.text spanId)

end Context
end Concordance
