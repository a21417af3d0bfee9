import Concordance.Telemetry.Emission
import Concordance.Telemetry.Metrics
import Concordance.Telemetry.Notice
import Concordance.Telemetry.Span

/-!
Monitored work: computations that report notices, count, and run inside spans. All that they leave
behind is one value, so that what was reported can be told from what was computed.
-/
namespace Concordance

/-- Everything that monitored work leaves behind. Every notice is kept; those that pass the threshold
are shown, in JSON together with the context that was in force. -/
structure Telemetry where
  threshold : Nat
  layout : LineLayout
  notices : List Notice
  shown : List (LogRecord × Context)
  context : Option Context
  identifiers : Identifiers
  metrics : Metrics
  tracing : Tracing

/-- A computation with telemetry. -/
abbrev Monitored := StateM Telemetry

namespace Telemetry

/-- Nothing reported yet. -/
def fresh : Telemetry :=
  { threshold := Level.warning.rank
    layout := .plain
    notices := []
    shown := []
    context := none
    identifiers := .fresh
    metrics := .fresh
    tracing := .off }

/-- Brings the context in force. -/
def settle (telemetry : Telemetry) : Context × Telemetry :=
  let (context, identifiers) := Context.inForce telemetry.context telemetry.identifiers
  (context, { telemetry with context := some context, identifiers := identifiers })

def recordOf (notice : Notice) : LogRecord := .plain notice.level notice.logger notice.message

/-- Shows a notice. Only JSON lines ask for the context. -/
def present (telemetry : Telemetry) (notice : Notice) : Telemetry :=
  match telemetry.layout with
  | .plain => { telemetry with shown := telemetry.shown ++ [(recordOf notice, ∅)] }
  | .json =>
    let (context, telemetry) := telemetry.settle
    { telemetry with shown := telemetry.shown ++ [(recordOf notice, context)] }

def note (telemetry : Telemetry) (notice : Notice) : Telemetry :=
  let telemetry := { telemetry with notices := telemetry.notices ++ [notice] }
  if telemetry.threshold ≤ notice.level.rank then telemetry.present notice else telemetry

/-- A notice is not counted. -/
@[simp] theorem metrics_note (telemetry : Telemetry) (notice : Notice) :
    (telemetry.note notice).metrics = telemetry.metrics := by
  simp only [note, present, settle]
  split
  · split <;> rfl
  · rfl

/-- A notice belongs to no span. -/
@[simp] theorem tracing_note (telemetry : Telemetry) (notice : Notice) :
    (telemetry.note notice).tracing = telemetry.tracing := by
  simp only [note, present, settle]
  split
  · split <;> rfl
  · rfl

/-- Whether a notice was reported, and shown if it passes the threshold. -/
structure Logged (telemetry : Telemetry) (notice : Notice) : Prop where
  kept : notice ∈ telemetry.notices
  shown : telemetry.threshold ≤ notice.level.rank →
    recordOf notice ∈ telemetry.shown.map Prod.fst

/-- What is reported is logged. -/
theorem logged_note (telemetry : Telemetry) (notice : Notice) :
    (telemetry.note notice).Logged notice := by
  simp only [note, present, settle]
  split
  · split <;> exact ⟨by simp, fun _ => by simp⟩
  · next quiet => exact ⟨by simp, fun passes => absurd passes quiet⟩

/-- What was logged stays logged. -/
theorem Logged.note {telemetry : Telemetry} {notice : Notice} (logged : telemetry.Logged notice)
    (next : Notice) : (telemetry.note next).Logged notice := by
  obtain ⟨kept, shown⟩ := logged
  simp only [Telemetry.note, present, settle]
  split
  · split <;> exact ⟨by simp [kept], fun passes => by simp [List.mem_map.mp (shown passes)]⟩
  · exact ⟨by simp [kept], shown⟩

/-- Opens a span and makes it the one that the context names. -/
def enter (telemetry : Telemetry) (name : Text) (attributes : Assoc Text Datum) :
    SpanIds × Telemetry :=
  let (tracing, ids, identifiers) := telemetry.tracing.enter name attributes telemetry.identifiers
  let context :=
    Context.link telemetry.context (Identifiers.traceText ids.trace) (Identifiers.spanText ids.span)
  (ids,
    { telemetry with tracing := tracing, identifiers := identifiers, context := some context })

/-- Finishes the innermost span. The context goes on naming it. -/
def leave (telemetry : Telemetry) (failure : Option Failure) : Telemetry :=
  { telemetry with tracing := telemetry.tracing.leave failure }

/-- The text of the log. A line for readers stands behind its time and a space, if there is a time; a line
for programs holds its time. -/
def logText (telemetry : Telemetry) (time : Text) : Text :=
  telemetry.shown.flatMap fun (record, context) =>
    match telemetry.layout with
    | .plain => (if time.isEmpty then [] else time ++ [' ']) ++ record.plainLine ++ ['\n']
    | .json => (record.jsonLine time context).toOption.elim [] (· ++ ['\n'])

end Telemetry

namespace Monitored

variable {α : Type}

def note (notice : Notice) : Monitored Unit := modify (·.note notice)

def noteAll (notices : List Notice) : Monitored Unit := notices.forM note

def measure (change : Metrics → Metrics) : Monitored Unit :=
  modify fun telemetry => { telemetry with metrics := change telemetry.metrics }

def setAttribute (name : Text) (value : Datum) : Monitored Unit :=
  modify fun telemetry => { telemetry with tracing := telemetry.tracing.setAttribute name value }

/-- Runs work inside a span. Without tracing there is no span, and the work is all there is. -/
def inSpan (name : Text) (attributes : List (Text × Datum)) (failureOf : α → Option Failure)
    (work : Option SpanIds → Monitored α) : Monitored α := do
  if (← get).tracing.resource.isNone then work none
  else
    let ids ← modifyGet (·.enter name (Span.attributesOf attributes))
    let result ← work (some ids)
    modify (·.leave (failureOf result))
    return result

/-- With tracing set up, work runs between the opening and the end of its span. -/
theorem run_in_span {name : Text} {attributes : List (Text × Datum)} {failureOf : α → Option Failure}
    {work : Option SpanIds → Monitored α} {telemetry : Telemetry}
    (traced : telemetry.tracing.resource.isSome = true) :
    (inSpan name attributes failureOf work).run telemetry =
      let entered := telemetry.enter name (Span.attributesOf attributes)
      let ended := (work (some entered.1)).run entered.2
      (ended.1, ended.2.leave (failureOf ended.1)) := by
  change (if telemetry.tracing.resource.isNone then _ else _ : Monitored α).run telemetry = _
  rw [if_neg (by simp [Option.isSome_iff_ne_none.mp traced])]
  rfl

/-- Without tracing, work runs by itself. -/
theorem run_in_no_span {name : Text} {attributes : List (Text × Datum)}
    {failureOf : α → Option Failure} {work : Option SpanIds → Monitored α} {telemetry : Telemetry}
    (untraced : telemetry.tracing.resource = none) :
    (inSpan name attributes failureOf work).run telemetry = (work none).run telemetry := by
  change (if telemetry.tracing.resource.isNone then _ else _ : Monitored α).run telemetry = _
  rw [if_pos (by simp [untraced])]

/-- Sets tracing up for a service, unless it is. -/
def initTracing (service : Text) (attributes : List (Text × Datum)) : Monitored Unit := do
  if (← get).tracing.resource.isNone then
    modify fun telemetry => { telemetry with tracing := telemetry.tracing.setUp service attributes }
    note (.tracing service)

/-- Has spans exported, and says whether they are. What is exported once stays exported. -/
def exportTo (exporter : TraceExporter) : Monitored Bool := do
  match exporter with
  | .none => return false
  | .console =>
    if (← get).tracing.exporting then return true
    initTracing Tracing.standardService []
    modify fun telemetry => { telemetry with tracing := { telemetry.tracing with exporting := true } }
    note (.exporting exporter.name)
    return true

/-- Takes the finished spans out for export. -/
def flush : Monitored (List Span) := modifyGet fun telemetry =>
  let (spans, tracing) := telemetry.tracing.flush
  (spans, { telemetry with tracing := tracing })

end Monitored
end Concordance
