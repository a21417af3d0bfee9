import Concordance.Proofs.HexReading
import Concordance.Telemetry.Block

/-!
The trace context along nested blocks of work. A block makes the context name its span when it begins, and
nothing changes the context when a block ends. So inside a block the context names the right trace at every
point, but of the spans the one that was opened last: that of the block itself until an inner block begins,
and from then on one that is over, although the open spans are what they were. All other fields stay as
they are.
-/
namespace Concordance.SpanContext
open HexReading

variable {origin : Option Context} {ids latest : SpanIds} {telemetry : Telemetry}

/-! ## Identifiers -/

/-- Texts count as one only if they are equal. -/
theorem same_text_iff (a b : Text) : Datum.same (.text a) (.text b) = true ↔ a = b := by
  change (some (compareOfLessAndEq a b) == some .eq) = true ↔ a = b
  rw [beq_iff_eq, Option.some_inj]
  unfold compareOfLessAndEq
  by_cases same : a = b
  · subst same
    rw [if_neg (List.lt_irrefl a), if_pos rfl]
    exact iff_of_true rfl rfl
  · rw [if_neg same]
    refine iff_of_false ?_ same
    split <;> simp

/-! ## What a context names -/

/-- A context names a span and its trace, and has all other fields of the one that it comes from. -/
structure Linked (origin : Option Context) (ids : SpanIds) (context : Context) : Prop where
  trace : context.get? Context.traceKey = some (.text (Identifiers.traceText ids.trace))
  span : context.get? Context.spanKey = some (.text (Identifiers.spanText ids.span))
  others : ∀ key, key ≠ Context.traceKey → key ≠ Context.spanKey →
    context.get? key = (origin.getD ∅).get? key

private theorem keys_differ : Context.traceKey ≠ Context.spanKey := by decide

theorem linked_link (origin : Option Context) (ids : SpanIds) :
    Linked origin ids (Context.link origin (Identifiers.traceText ids.trace)
      (Identifiers.spanText ids.span)) where
  trace := by
    rw [Context.link, Assoc.put, Assoc.get?_update, if_neg keys_differ, Assoc.put, Assoc.get?_update,
      if_pos rfl]
  span := by rw [Context.link, Assoc.put, Assoc.get?_update, if_pos rfl]
  others := by
    intro key notTrace notSpan
    rw [Context.link, Assoc.put, Assoc.get?_update, if_neg notSpan, Assoc.put, Assoc.get?_update,
      if_neg notTrace]

theorem Linked.trans {middle context : Context} {earlier : SpanIds} (first : Linked origin earlier middle)
    (second : Linked (some middle) ids context) : Linked origin ids context where
  trace := second.trace
  span := second.span
  others := fun key notTrace notSpan =>
    (second.others key notTrace notSpan).trans (first.others key notTrace notSpan)

/-- Of the spans of one trace a context names the one that it was last made to name, and no other. -/
theorem Linked.names_iff {context : Context} (linked : Linked origin latest context)
    (trace : latest.trace = ids.trace) : context.names ids = true ↔ latest.span = ids.span := by
  rw [Context.names, linked.trace, linked.span, Option.getD_some, Option.getD_some, Bool.and_eq_true,
    same_text_iff, same_text_iff, trace]
  exact ⟨fun both => hex_injective both.2, fun same => ⟨rfl, by rw [same]⟩⟩

theorem Linked.hasTrace {context : Context} (linked : Linked origin ids context) :
    context.hasTrace = true := by
  rw [Context.hasTrace, linked.trace]
  simp [Datum.isVacant, Identifiers.traceText, hex_nonempty]

/-- A context that names a span stays in force when it is asked for. -/
theorem Linked.settle {context : Context} (linked : Linked origin ids context)
    (current : telemetry.context = some context) : telemetry.settle = (context, telemetry) := by
  simp only [Telemetry.settle, Context.inForce, current, linked.hasTrace, if_true]
  cases telemetry
  simp_all

/-! ## Runs -/

/-- The state inside a block after the earlier ones of its inner blocks. -/
def bodyAfter (telemetry : Telemetry) (name : Text) (attributes : List (Text × Datum))
    (earlier : List Block) : Telemetry :=
  ((Block.runAll earlier).run (telemetry.enter name (Span.attributesOf attributes)).2).2

theorem runAll_append (earlier later : List Block) (telemetry : Telemetry) :
    ((Block.runAll (earlier ++ later)).run telemetry).2 =
      ((Block.runAll later).run ((Block.runAll earlier).run telemetry).2).2 := by
  induction earlier generalizing telemetry with
  | nil => rfl
  | cons block blocks ih => exact ih ((Block.run block).run telemetry).2

/-- From any point inside a block the rest of its inner blocks run, and then its span is finished. -/
theorem run_from_body (traced : telemetry.tracing.resource.isSome = true) (name : Text)
    (attributes : List (Text × Datum)) (earlier later : List Block) (failure : Option Failure) :
    ((Block.run (.mk name attributes (earlier ++ later) failure)).run telemetry).2 =
      ((Block.runAll later).run (bodyAfter telemetry name attributes earlier)).2.leave failure := by
  rw [Block.run, Monitored.run_in_span traced, bodyAfter, ← runAll_append]
  rfl

mutual

/-- The number of spans that a block opens. -/
def spans : Block → Nat
  | .mk _ _ inner _ => spansOfAll inner + 1

def spansOfAll : List Block → Nat
  | [] => 0
  | block :: blocks => spans block + spansOfAll blocks

end

/-- Work inside an open span: further spans may have been opened in its trace since, and the context is
linked to the one that was opened last. -/
structure Working (origin : Option Context) (here : OpenSpan) (around : List OpenSpan)
    (latest : SpanIds) (telemetry : Telemetry) : Prop where
  traced : telemetry.tracing.resource.isSome = true
  active : telemetry.tracing.active = here :: around
  trace : latest.trace = here.ids.trace
  issued : telemetry.identifiers.issued = latest.span
  linked : ∃ context, telemetry.context = some context ∧ Linked origin latest context

/-- A block begins inside its own span, with the context linked to it. -/
theorem enter_working (traced : telemetry.tracing.resource.isSome = true) (name : Text)
    (attributes : Assoc Text Datum) :
    let entered := telemetry.enter name attributes
    ∃ here, here.ids = entered.1 ∧
      Working telemetry.context here telemetry.tracing.active entered.1 entered.2 := by
  intro entered
  have opened : ∃ isRoot, entered.2.tracing.active =
      ⟨entered.1, name, isRoot, attributes⟩ :: telemetry.tracing.active := by
    cases active : telemetry.tracing.active <;> simp [entered, Telemetry.enter, Tracing.enter, active]
  obtain ⟨isRoot, active⟩ := opened
  refine ⟨_, rfl, ⟨traced, active, rfl, ?_, _, rfl, linked_link _ _⟩⟩
  cases active : telemetry.tracing.active <;>
    simp [entered, Telemetry.enter, Tracing.enter, active, Identifiers.next]

variable {here : OpenSpan} {around : List OpenSpan}

/-- A span that is opened inside another one is in its trace and has the next number. -/
theorem Working.enter (working : Working origin here around latest telemetry) (name : Text)
    (attributes : Assoc Text Datum) :
    (telemetry.enter name attributes).1 = ⟨latest.trace, latest.span + 1⟩ := by
  simp [Telemetry.enter, Tracing.enter, working.active, Identifiers.next, working.issued, working.trace]

/-- Fields that come from a linked context come from where that one has them. -/
theorem Working.since {context : Context} {earlier : SpanIds}
    (working : Working (some context) here around latest telemetry)
    (linked : Linked origin earlier context) : Working origin here around latest telemetry :=
  let ⟨final, current, relinked⟩ := working.linked
  { working with linked := ⟨final, current, linked.trans relinked⟩ }

/-- The end of an inner block makes the span around it the innermost one again; the context stays as the
inner block left it. -/
theorem Working.leave {opened : OpenSpan}
    (inner : Working origin opened (here :: around) latest telemetry)
    (trace : latest.trace = here.ids.trace) (failure : Option Failure) :
    Working origin here around latest (telemetry.leave failure) where
  traced := by simpa [Telemetry.leave, Tracing.leave, inner.active] using inner.traced
  active := by simp [Telemetry.leave, Tracing.leave, inner.active]
  trace := trace
  issued := inner.issued
  linked := inner.linked

mutual

/-- A block that runs inside an open span moves the link on by the spans that it opens. -/
theorem run_working {origin : Option Context} {here : OpenSpan} {around : List OpenSpan}
    {latest : SpanIds} {telemetry : Telemetry} (block : Block)
    (working : Working origin here around latest telemetry) :
    Working origin here around ⟨latest.trace, latest.span + spans block⟩
      ((Block.run block).run telemetry).2 :=
  match block with
  | .mk name attributes inner failure => by
    obtain ⟨context, current, linked⟩ := working.linked
    obtain ⟨opened, -, entered⟩ := enter_working working.traced name (Span.attributesOf attributes)
    rw [working.enter, current, working.active] at entered
    have finished := ((runAll_working inner entered).since linked).leave working.trace failure
    rw [← List.append_nil inner, run_from_body working.traced, List.append_nil, spans,
      Nat.add_comm (spansOfAll inner), ← Nat.add_assoc]
    exact finished

/-- Blocks that run inside an open span one after another move the link on by all their spans. -/
theorem runAll_working {origin : Option Context} {here : OpenSpan} {around : List OpenSpan}
    {latest : SpanIds} {telemetry : Telemetry} (blocks : List Block)
    (working : Working origin here around latest telemetry) :
    Working origin here around ⟨latest.trace, latest.span + spansOfAll blocks⟩
      ((Block.runAll blocks).run telemetry).2 :=
  match blocks with
  | [] => working
  | block :: blocks => by
    rw [spansOfAll, ← Nat.add_assoc]
    exact runAll_working blocks (run_working block working)

end

/-! ## Points inside blocks -/

/-- A point inside a block that begins in some state, or inside one of its inner blocks: the span of the block
that has the point in its own body, the blocks that ran there before it, and the state at the point. -/
inductive Point : Telemetry → Block → SpanIds → List Block → Telemetry → Prop where
  | here (telemetry : Telemetry) (name : Text) (attributes : List (Text × Datum))
      (earlier later : List Block) (failure : Option Failure) :
      Point telemetry (.mk name attributes (earlier ++ later) failure)
        (telemetry.enter name (Span.attributesOf attributes)).1 earlier
        (bodyAfter telemetry name attributes earlier)
  | within (telemetry : Telemetry) (name : Text) (attributes : List (Text × Datum))
      (before later : List Block) (failure : Option Failure) {block : Block} {ids : SpanIds}
      {earlier : List Block} {inside : Telemetry}
      (point : Point (bodyAfter telemetry name attributes before) block ids earlier inside) :
      Point telemetry (.mk name attributes (before ++ block :: later) failure) ids earlier inside

/-- Behind some of its inner blocks the body of a block goes on inside the block's own span. -/
theorem body_working (traced : telemetry.tracing.resource.isSome = true) (name : Text)
    (attributes : List (Text × Datum)) (earlier : List Block) :
    ∃ here, here.ids = (telemetry.enter name (Span.attributesOf attributes)).1 ∧
      Working telemetry.context here telemetry.tracing.active
        ⟨here.ids.trace, here.ids.span + spansOfAll earlier⟩
        (bodyAfter telemetry name attributes earlier) := by
  obtain ⟨here, same, entered⟩ := enter_working traced name (Span.attributesOf attributes)
  rw [← same] at entered
  exact ⟨here, same, runAll_working earlier entered⟩

/-- At a point inside a block the span of the block that has the point in its own body is the innermost
open one. -/
theorem point_working {block : Block} {earlier : List Block} {inside : Telemetry}
    (point : Point telemetry block ids earlier inside)
    (traced : telemetry.tracing.resource.isSome = true) :
    ∃ here around, here.ids = ids ∧
      Working telemetry.context here around ⟨ids.trace, ids.span + spansOfAll earlier⟩ inside := by
  induction point with
  | here telemetry name attributes earlier =>
    obtain ⟨here, same, working⟩ := body_working traced name attributes earlier
    rw [same] at working
    exact ⟨here, _, same, working⟩
  | within telemetry name attributes before later failure point ih =>
    obtain ⟨outer, -, outside⟩ := body_working traced name attributes before
    obtain ⟨here, around, same, working⟩ := ih outside.traced
    obtain ⟨context, current, linked⟩ := outside.linked
    rw [current] at working
    exact ⟨here, around, same, working.since linked⟩

theorem spans_positive (block : Block) : 0 < spans block := by
  cases block
  simp [spans]

/-- **Inside a block the context names the span that was opened last.** The block's own span is the innermost
open one at every point of its own body. The context names the trace of that span, and the span as long as no
inner block has run; behind inner blocks it names the last span that they opened, which is over. All other
fields are those from before the blocks. -/
theorem context_names_latest_span {block : Block} {earlier : List Block} {inside : Telemetry}
    (traced : telemetry.tracing.resource.isSome = true)
    (point : Point telemetry block ids earlier inside) :
    inside.tracing.active.head?.map OpenSpan.ids = some ids ∧
    ∃ context, inside.settle = (context, inside) ∧
      Linked telemetry.context ⟨ids.trace, ids.span + spansOfAll earlier⟩ context ∧
      (context.names ids = true ↔ earlier = []) := by
  obtain ⟨here, around, same, working⟩ := point_working point traced
  obtain ⟨context, current, linked⟩ := working.linked
  have named : context.names ids = true ↔ ids.span + spansOfAll earlier = ids.span :=
    linked.names_iff rfl
  refine ⟨by simp [working.active, same], context, linked.settle current, linked, named.trans ?_⟩
  cases earlier with
  | nil => simp [spansOfAll]
  | cons block blocks =>
    have opened := spans_positive block
    have moved : ids.span + spansOfAll (block :: blocks) ≠ ids.span := by
      rw [spansOfAll]
      omega
    exact iff_of_false moved (List.cons_ne_nil _ _)

/-- Tracing set up, with no span so far. -/
def begun (context : Option Context) : Telemetry :=
  { Telemetry.fresh with
    context := context
    tracing := Tracing.off.setUp Tracing.standardService [] }

/-- A block without inner blocks that ends well. -/
def leaf (name : String) : Block := .mk name.toList [] [] none

/-- In a block that follows a failed one, behind an inner block: the number of the block's own span is 4, the
context names that of the inner block, and the field that was there before is still there. -/
theorem inner_span_behind_failed_block :
    let user : Context := Context.of "t".toList "s".toList [("user".toList, .text "u".toList)]
    let broken := Block.mk "broken".toList [] [] (some ⟨"ValueError".toList, "no".toList⟩)
    let second := Block.mk "second".toList [] [leaf "deep"] none
    let tree := Block.mk "outer".toList [] [broken, second] none
    ∃ inside, Point (begun (some user)) tree ⟨1, 4⟩ [leaf "deep"] inside ∧
      ∃ context, inside.settle = (context, inside) ∧
        context.get? Context.spanKey = some (.text "0000000000000005".toList) ∧
        context.get? "user".toList = some (.text "u".toList) ∧
        context.names ⟨1, 4⟩ = false := by
  intro user broken second tree
  have traced : (begun (some user)).tracing.resource.isSome = true := rfl
  have point : Point (begun (some user)) tree ⟨1, 4⟩ [leaf "deep"]
      (bodyAfter (bodyAfter (begun (some user)) "outer".toList [] [broken]) "second".toList []
        [leaf "deep"]) :=
    .within _ _ [] [broken] [] none (.here _ _ [] [leaf "deep"] [] none)
  obtain ⟨-, context, settled, linked, named⟩ := context_names_latest_span traced point
  refine ⟨_, point, context, settled, ?_, ?_, ?_⟩
  · exact linked.span
  · exact linked.others _ (by decide) (by decide)
  · exact Bool.eq_false_iff.mpr fun names => absurd (named.mp names) (by simp)

/-- Behind an inner block only the span of the block around it is open, and the context names the other one. -/
theorem finished_span_named :
    let outer := Block.mk "outer".toList [] [leaf "inner"] none
    let inside := bodyAfter (begun none) "outer".toList [] [leaf "inner"]
    (begun none).tracing.resource.isSome = true ∧
      Point (begun none) outer ⟨1, 2⟩ [leaf "inner"] inside ∧
      inside.tracing.active.map OpenSpan.ids = [⟨1, 2⟩] ∧
      inside.settle.1.get? Context.spanKey = some (.text (Identifiers.spanText 3)) ∧
      inside.settle.1.names ⟨1, 2⟩ = false := by
  intro outer inside
  refine ⟨rfl, .here _ _ [] [leaf "inner"] [] none, rfl, rfl, by decide⟩

end Concordance.SpanContext
