import Mathlib.Data.List.Forall2
import Concordance.Telemetry.Job

/-!
What failures leave behind in spans. A failure that goes outwards is marked on every span that it passes and
on no other one, and comes out as it was raised. On each of these spans it is marked twice: inside the span,
where it is seen first, and once more where it leaves the span.
-/
namespace Concordance.FailureMarks

/-! ## Ways of failures -/

mutual

/-- The failure that leaves a job: the first one that nothing in the job takes care of. -/
def leaving : Job → Option Failure
  | .span _ _ steps => leavingAll steps
  | .attempt steps remedy => (leavingAll steps).bind fun _ => leavingAll remedy
  | .fail failure => some failure

/-- The failure that leaves jobs which follow one another. -/
def leavingAll : List Job → Option Failure
  | [] => none
  | job :: jobs => (leaving job).or (leavingAll jobs)

end

/-- A span by its name, and the failure that passes it. -/
structure Passage where
  name : Text
  failure : Option Failure

mutual

/-- The spans of a job that are reached, in the order in which they end, inner ones first. -/
def passages : Job → List Passage
  | .span name _ steps => passagesAll steps ++ [⟨name, leavingAll steps⟩]
  | .attempt steps remedy =>
    passagesAll steps ++ if (leavingAll steps).isSome then passagesAll remedy else []
  | .fail _ => []

/-- The spans that are reached in jobs which follow one another: none behind a failure. -/
def passagesAll : List Job → List Passage
  | [] => []
  | job :: jobs => passages job ++ if (leaving job).isSome then [] else passagesAll jobs

end

/-! ## Marks -/

/-- A finished span is marked with the failure that passed it: it has its status from the failure, and tells
of it in two events. A span that no failure passed has neither. -/
structure Marked (passage : Passage) (span : Span) : Prop where
  name : span.name = passage.name
  status : span.status = passage.failure.elim .unset fun failure =>
    .error (failure.kind ++ ": ".toList ++ failure.wording)
  events : span.events = passage.failure.elim [] fun _ => [Span.failureEvent, Span.failureEvent]

/-- A span that is finished is marked with the failure that it is finished with, if there is one. -/
theorem finish_marked (span : OpenSpan) (failure : Option Failure) :
    Marked ⟨span.name, failure⟩ (span.finish failure) := by
  cases failure <;> exact ⟨rfl, rfl, rfl⟩

/-- Tracing after some spans have ended: they wait for export, marked with what passed them. The spans that
were open are open again, and nothing else has changed. -/
structure Ended (ended : List Passage) (before after : Tracing) : Prop where
  resource : after.resource = before.resource
  exporting : after.exporting = before.exporting
  active : after.active = before.active
  waiting : ∃ spans, after.waiting = before.waiting ++ spans ∧ List.Forall₂ Marked ended spans

variable {first rest ended : List Passage} {before middle after : Tracing} {telemetry inside : Telemetry}

theorem Ended.refl (tracing : Tracing) : Ended [] tracing tracing :=
  ⟨rfl, rfl, rfl, [], (List.append_nil _).symm, .nil⟩

theorem Ended.trans (head : Ended first before middle) (tail : Ended rest middle after) :
    Ended (first ++ rest) before after where
  resource := tail.resource.trans head.resource
  exporting := tail.exporting.trans head.exporting
  active := tail.active.trans head.active
  waiting := by
    obtain ⟨earlier, headWaiting, headMarked⟩ := head.waiting
    obtain ⟨later, tailWaiting, tailMarked⟩ := tail.waiting
    refine ⟨earlier ++ later, ?_, List.rel_append headMarked tailMarked⟩
    rw [tailWaiting, headWaiting, List.append_assoc]

/-- The end of a span, whatever it covered, adds the span itself to those that have ended inside it. -/
theorem Ended.leave {name : Text} {attributes : Assoc Text Datum}
    (exporting : telemetry.tracing.exporting = true)
    (within : Ended ended (telemetry.enter name attributes).2.tracing inside.tracing)
    (failure : Option Failure) :
    Ended (ended ++ [⟨name, failure⟩]) telemetry.tracing (inside.leave failure).tracing := by
  obtain ⟨ids, isRoot, opened⟩ : ∃ ids isRoot, (telemetry.enter name attributes).2.tracing.active =
      ⟨ids, name, isRoot, attributes⟩ :: telemetry.tracing.active := by
    cases active : telemetry.tracing.active <;> simp [Telemetry.enter, Tracing.enter, active]
  have around := within.active.trans opened
  have exportingInside : inside.tracing.exporting = true := within.exporting.trans exporting
  obtain ⟨spans, waiting, marked⟩ := within.waiting
  let span : OpenSpan := ⟨ids, name, isRoot, attributes⟩
  have left : (inside.leave failure).tracing =
      { inside.tracing with
        active := telemetry.tracing.active
        waiting := inside.tracing.waiting ++ [span.finish failure] } := by
    rw [Telemetry.leave, Tracing.leave, around]
    simp [exportingInside, span]
  rw [left]
  refine ⟨within.resource, within.exporting, rfl, spans ++ [span.finish failure], ?_, ?_⟩
  · rw [waiting, List.append_assoc]
    rfl
  · exact List.rel_append marked (.cons (finish_marked span failure) .nil)

/-! ## Runs -/

mutual

/-- A job ends in the failure that leaves it, and the spans that it has reached are marked. -/
theorem run_ended {telemetry : Telemetry} (traced : telemetry.tracing.resource.isSome = true)
    (exporting : telemetry.tracing.exporting = true) (job : Job) :
    ∃ after, job.run.run telemetry = (leaving job, after) ∧
      Ended (passages job) telemetry.tracing after.tracing :=
  match job with
  | .span name attributes steps => by
    let entered := (telemetry.enter name (Span.attributesOf attributes)).2
    have tracedInside : entered.tracing.resource.isSome = true := traced
    have exportingInside : entered.tracing.exporting = true := exporting
    obtain ⟨inside, ran, within⟩ := runAll_ended tracedInside exportingInside steps
    exact ⟨_, Job.run_span traced ran, within.leave exporting _⟩
  | .attempt steps remedy => by
    obtain ⟨middle, tried, ended⟩ := runAll_ended traced exporting steps
    rw [leaving, passages]
    cases failed : leavingAll steps with
    | none =>
      rw [failed] at tried
      exact ⟨middle, Job.run_attempt_well tried, ended.trans (.refl _)⟩
    | some failure =>
      rw [failed] at tried
      obtain ⟨after, ran, later⟩ := runAll_ended (ended.resource ▸ traced)
        (ended.exporting.trans exporting) remedy
      exact ⟨after, (Job.run_attempt_failed tried).trans ran, ended.trans later⟩
  | .fail failure => ⟨telemetry, rfl, .refl _⟩

/-- Jobs that follow one another end in the first failure that leaves one of them. -/
theorem runAll_ended {telemetry : Telemetry} (traced : telemetry.tracing.resource.isSome = true)
    (exporting : telemetry.tracing.exporting = true) (jobs : List Job) :
    ∃ after, (Job.runAll jobs).run telemetry = (leavingAll jobs, after) ∧
      Ended (passagesAll jobs) telemetry.tracing after.tracing :=
  match jobs with
  | [] => ⟨telemetry, rfl, .refl _⟩
  | job :: jobs => by
    obtain ⟨middle, done, ended⟩ := run_ended traced exporting job
    rw [leavingAll, passagesAll]
    cases failed : leaving job with
    | none =>
      rw [failed] at done
      obtain ⟨after, ran, later⟩ := runAll_ended (ended.resource ▸ traced)
        (ended.exporting.trans exporting) jobs
      exact ⟨after, (Job.runAll_cons_well done).trans ran, ended.trans later⟩
    | some failure =>
      rw [failed] at done
      exact ⟨middle, Job.runAll_cons_failed done, ended.trans (.refl _)⟩

end

/-- **A failure is marked twice on every span that it passes, and on no other one.** Whatever work is done in
nested spans, wherever it fails and wherever failures are taken care of: the failure that comes out is the one
that was raised; all spans that were reached are over, in order; those that a failure passed have its kind and
wording as their status and two events that tell of it, the others have neither. The same holds of blocks,
which are jobs whose failures stop where they end. -/
theorem failures_marked_twice (traced : telemetry.tracing.resource.isSome = true)
    (exporting : telemetry.tracing.exporting = true) :
    (∀ job : Job, ∃ after spans, job.run.run telemetry = (leaving job, after) ∧
      after.tracing.active = telemetry.tracing.active ∧
      after.tracing.waiting = telemetry.tracing.waiting ++ spans ∧
      List.Forall₂ Marked (passages job) spans) ∧
    ∀ block : Block, ∃ spans,
      (block.run.run telemetry).2.tracing.waiting = telemetry.tracing.waiting ++ spans ∧
      List.Forall₂ Marked (passages block.job) spans := by
  have each (job : Job) : ∃ after spans, job.run.run telemetry = (leaving job, after) ∧
      after.tracing.active = telemetry.tracing.active ∧
      after.tracing.waiting = telemetry.tracing.waiting ++ spans ∧
      List.Forall₂ Marked (passages job) spans := by
    obtain ⟨after, ran, ended⟩ := run_ended traced exporting job
    obtain ⟨spans, waiting, marked⟩ := ended.waiting
    exact ⟨after, spans, ran, ended.active, waiting, marked⟩
  refine ⟨each, fun block => ?_⟩
  obtain ⟨after, spans, ran, -, waiting, marked⟩ := each block.job
  rw [Block.run_job] at ran
  obtain rfl : (block.run.run telemetry).2 = after := congrArg Prod.snd ran
  exact ⟨spans, waiting, marked⟩

/-- Tracing set up, and spans exported. -/
def watched : Telemetry :=
  { Telemetry.fresh with
    tracing := { Tracing.off.setUp Tracing.standardService [] with exporting := true } }

/-- A failure that passes two spans and is taken care of in a third one, and another failure that goes on from
there: the spans in between have no mark, and what stands behind the last failure is not reached. -/
theorem failure_behind_remedy :
    let boom : Failure := ⟨"RuntimeError".toList, "boom".toList⟩
    let lost : Failure := ⟨"KeyError".toList, "'k'".toList⟩
    let deep := Job.span "deep".toList [] [.fail boom, .span "unreached".toList [] []]
    let remedy := Job.span "remedy".toList [] []
    let job := Job.span "outer".toList []
      [.attempt [.span "inner".toList [] [deep]] [remedy], .fail lost, remedy]
    watched.tracing.resource.isSome = true ∧ watched.tracing.exporting = true ∧
      ∃ after spans, job.run.run watched = (some lost, after) ∧ after.tracing.waiting = spans ∧
        List.Forall₂ Marked [⟨"deep".toList, some boom⟩, ⟨"inner".toList, some boom⟩,
          ⟨"remedy".toList, none⟩, ⟨"outer".toList, some lost⟩] spans := by
  intro boom lost deep remedy job
  refine ⟨rfl, rfl, ?_⟩
  have traced : watched.tracing.resource.isSome = true := rfl
  obtain ⟨after, spans, ran, -, waiting, marked⟩ := (failures_marked_twice traced rfl).1 job
  exact ⟨after, spans, ran, waiting, marked⟩

/-- One failure that leaves one span makes two events, whether it is caught there or goes on. -/
theorem one_failure_two_events :
    let boom : Failure := ⟨"RuntimeError".toList, "boom".toList⟩
    let caught := ((Block.mk "f".toList [] [] (some boom)).run.run watched).2
    let passed := (Job.span "outer".toList [] [.span "inner".toList [] [.fail boom]]).run.run watched
    caught.tracing.waiting.map (·.events.count Span.failureEvent) = [2] ∧
      passed.1 = some boom ∧
      passed.2.tracing.waiting.map (·.events.count Span.failureEvent) = [2, 2] := by
  intro boom caught passed
  exact ⟨by decide, by decide, by decide⟩

end Concordance.FailureMarks
