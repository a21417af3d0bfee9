import Concordance.Telemetry.Monitor

/-!
Nested blocks of work, each inside a span of its own. A block runs its inner blocks and may then fail;
the failure passes its span, and is caught outside.
-/
namespace Concordance

/-- A block with a name, attributes, inner blocks, and the failure that it ends in. -/
inductive Block where
  | mk (name : Text) (attributes : List (Text × Datum)) (inner : List Block)
    (failure : Option Failure)

/-- What is seen of a block: whether it has a span, whether the context names that span at the
beginning of the block, the other fields of the context, and how the block and its inner blocks went. -/
inductive BlockReport where
  | mk (traced published : Bool) (extra : List Text) (failure : Option Failure)
    (inner : List BlockReport)

/-- The failure that a block ended in. -/
def BlockReport.failure : BlockReport → Option Failure
  | mk _ _ _ failure _ => failure

namespace Context

/-- Whether a context names a span. -/
def names (context : Context) (ids : SpanIds) : Bool :=
  Datum.same ((context.get? traceKey).getD .null) (.text (Identifiers.traceText ids.trace)) &&
    Datum.same ((context.get? spanKey).getD .null) (.text (Identifiers.spanText ids.span))

/-- The fields of a context that name no trace or span, in code point order. -/
def extraKeys (context : Context) : List Text :=
  Text.sorted (context.keys.filter fun key => key != traceKey && key != spanKey)

end Context

namespace Block

mutual

/-- Runs a block. -/
def run : Block → Monitored BlockReport
  | mk name attributes inner failure =>
    Monitored.inSpan name attributes BlockReport.failure fun ids => do
      let context := (← get).context.getD ∅
      let published := ids.any context.names
      let reports ← runAll inner
      return .mk ids.isSome published context.extraKeys failure reports

def runAll : List Block → Monitored (List BlockReport)
  | [] => return []
  | block :: blocks => do
    let report ← run block
    return report :: (← runAll blocks)

end

end Block
end Concordance
