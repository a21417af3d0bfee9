import Concordance.Assoc
import Concordance.Telemetry.Context
import Concordance.Telemetry.Record
import Concordance.Text.Utf8

/-!
Spans. A span covers a piece of work; spans nest, and a span within another one belongs to its trace.
Finished spans wait for export, innermost first.
-/
namespace Concordance

/-- The numbers of a span and of its trace. -/
structure SpanIds where
  trace : Nat
  span : Nat
  deriving Repr, DecidableEq

/-- A span that was not finished yet. -/
structure OpenSpan where
  ids : SpanIds
  name : Text
  isRoot : Bool
  attributes : Assoc Text Datum

/-- How a span ended. -/
inductive SpanStatus where
  | unset
  | error (description : Text)
  deriving Repr, DecidableEq

/-- A finished span. -/
structure Span where
  name : Text
  isRoot : Bool
  attributes : Assoc Text Datum
  status : SpanStatus
  events : List Text

namespace Span

/-- The kind of a simple attribute: items of an attribute that is a sequence are all of one kind. -/
inductive AttributeKind where
  | bool
  | int
  | float
  | text
  deriving Repr, DecidableEq

/-- The kind of a simple attribute, if it is one. -/
def kindOf? : Datum → Option AttributeKind
  | .bool _ => some .bool
  | .int _ => some .int
  | .float _ => some .float
  | .text _ => some .text
  | _ => none

/-- A simple attribute; octets become text, if they are text. -/
def simple? : Datum → Option Datum
  | .bytes true octets =>
    let (t, stop) := Utf8.decodeWhile 0 octets
    if stop.rest.isEmpty then some (.text t) else none
  | datum => (kindOf? datum).map fun _ => datum

/-- An item of a sequence, and whether the sequence may hold it at all. -/
def item? (datum : Datum) : Option Datum :=
  match datum with
  | .null => some .null
  | .bytes true _ => some ((simple? datum).getD .null)
  | _ => simple? datum

/-- A sequence as an attribute, if its items are of one kind. -/
def sequence? (items : List Datum) : Option Datum := do
  let items ← items.mapM item?
  let kinds := items.filterMap kindOf?
  if kinds.all (some · == kinds.head?) then some (.tuple items) else none

/-- What is kept of an attribute; most collections are not. -/
def attribute? : Datum → Option Datum
  | .list items => sequence? items
  | .tuple items => sequence? items
  | datum => simple? datum

/-- Sets an attribute. One without a name, or of a kind that is not kept, is left out. -/
def setAttribute (attributes : Assoc Text Datum) (name : Text) (value : Datum) : Assoc Text Datum :=
  match attribute? value with
  | some value => if name.isEmpty then attributes else attributes.put name value
  | none => attributes

def attributesOf (attributes : List (Text × Datum)) : Assoc Text Datum :=
  attributes.foldl (fun kept (name, value) => setAttribute kept name value) ∅

/-- The name of the event that a failure adds. -/
def failureEvent : Text := "exception".toList

/-- A span with a failure marked on it: as its status, with a description, and as one more event. -/
def mark (span : Span) (description : Text) : Span :=
  { span with status := .error description, events := span.events ++ [failureEvent] }

end Span

/-- An open span finished. A failure that leaves it is marked twice: with its wording where it is seen first,
inside the span, and with its kind as well where it leaves the span. -/
def OpenSpan.finish (span : OpenSpan) (failure : Option Failure) : Span :=
  let finished : Span := ⟨span.name, span.isRoot, span.attributes, .unset, []⟩
  match failure with
  | none => finished
  | some failure =>
    (finished.mark failure.wording).mark (failure.kind ++ ": ".toList ++ failure.wording)

/-- Where spans are exported to. -/
inductive TraceExporter where
  | none
  | console
  deriving Repr, DecidableEq

/-- Why an exporter is refused. -/
inductive ExporterError where
  | unknown (name : Text)
  deriving Repr, DecidableEq

namespace TraceExporter

def all : List TraceExporter := [none, console]

def name : TraceExporter → Text
  | none => "none".toList
  | console => "console".toList

def ofName (t : Text) : Except ExporterError TraceExporter :=
  match all.find? (·.name == t) with
  | some exporter => .ok exporter
  | .none => .error (.unknown t)

end TraceExporter

def ExporterError.message : ExporterError → Text
  | unknown name =>
    "Unknown trace exporter ".toList ++ Text.quoted name ++ "; expected one of ".toList ++
      Text.join ", ".toList (TraceExporter.all.map TraceExporter.name)

/-- Tracing: what is said of the service, once tracing is set up, whether spans are exported, the open
spans from the innermost outwards, and the finished ones that wait for export. -/
structure Tracing where
  resource : Option (Assoc Text Datum)
  exporting : Bool
  active : List OpenSpan
  waiting : List Span

namespace Tracing

/-- Tracing that is not set up. -/
def off : Tracing := ⟨none, false, [], []⟩

/-- The name of the service that is traced if none is given. -/
def standardService : Text := "positional-search".toList

/-- The attribute that names the service. -/
def serviceKey : Text := "service.name".toList

/-- The name of a service without a name. -/
def unknownService : Text := "unknown_service".toList

/-- What is said of a service: its name, and further attributes, which may give another name. -/
def resourceOf (service : Text) (attributes : List (Text × Datum)) : Assoc Text Datum :=
  let resource := Span.attributesOf ((serviceKey, .text service) :: attributes)
  match resource.get? serviceKey with
  | some name => if name.isVacant then resource.put serviceKey (.text unknownService) else resource
  | none => resource.put serviceKey (.text unknownService)

/-- Sets tracing up, unless it is. -/
def setUp (tracing : Tracing) (service : Text) (attributes : List (Text × Datum)) : Tracing :=
  match tracing.resource with
  | some _ => tracing
  | none => { tracing with resource := some (resourceOf service attributes) }

/-- Opens a span with the given number; it is in the trace of the span around it, or else in a new
one. -/
def enter (tracing : Tracing) (name : Text) (attributes : Assoc Text Datum)
    (identifiers : Identifiers) : Tracing × SpanIds × Identifiers :=
  let (trace, isRoot, identifiers) :=
    match tracing.active with
    | [] =>
      let (trace, identifiers) := identifiers.next
      (trace, true, identifiers)
    | around :: _ => (around.ids.trace, false, identifiers)
  let (span, identifiers) := identifiers.next
  let ids : SpanIds := ⟨trace, span⟩
  ({ tracing with active := ⟨ids, name, isRoot, attributes⟩ :: tracing.active }, ids, identifiers)

/-- Sets an attribute of the innermost open span. -/
def setAttribute (tracing : Tracing) (name : Text) (value : Datum) : Tracing :=
  match tracing.active with
  | [] => tracing
  | span :: around =>
    { tracing with
      active := { span with attributes := Span.setAttribute span.attributes name value } :: around }

/-- Finishes the innermost open span. It waits for export only if spans are exported. -/
def leave (tracing : Tracing) (failure : Option Failure) : Tracing :=
  match tracing.active with
  | [] => tracing
  | span :: around =>
    { tracing with
      active := around
      waiting := if tracing.exporting then tracing.waiting ++ [span.finish failure] else tracing.waiting }

/-- Takes the finished spans out for export. -/
def flush (tracing : Tracing) : List Span × Tracing := (tracing.waiting, { tracing with waiting := [] })

end Tracing
end Concordance
