import Concordance.Telemetry.Block

/-!
Work inside nested spans that may fail anywhere. A failure goes outwards through the spans around it until
something takes care of it; what stands behind the failure up to there is not reached.
-/
namespace Concordance

/-- A piece of work. -/
inductive Job where
  /-- Work inside a span of its own. -/
  | span (name : Text) (attributes : List (Text × Datum)) (steps : List Job)
  /-- Work with a remedy, which is run if the work fails; no failure but one of the remedy goes on. -/
  | attempt (steps remedy : List Job)
  | fail (failure : Failure)

namespace Job

mutual

/-- Runs a job, and says which failure it ends in. -/
def run : Job → Monitored (Option Failure)
  | span name attributes steps => Monitored.inSpan name attributes id fun _ => runAll steps
  | attempt steps remedy => do
    match ← runAll steps with
    | none => return none
    | some _ => runAll remedy
  | fail failure => return some failure

/-- Runs jobs one after another, up to the first failure. -/
def runAll : List Job → Monitored (Option Failure)
  | [] => return none
  | job :: jobs => do
    match ← run job with
    | none => runAll jobs
    | some failure => return some failure

end

variable {steps remedy jobs : List Job} {job : Job} {telemetry after : Telemetry}

/-- A span ends with the failure that the work inside ends in. -/
theorem run_span {name : Text} {attributes : List (Text × Datum)} {ending : Option Failure}
    (traced : telemetry.tracing.resource.isSome = true)
    (ran : (runAll steps).run (telemetry.enter name (Span.attributesOf attributes)).2 =
      (ending, after)) :
    (run (.span name attributes steps)).run telemetry = (ending, after.leave ending) := by
  rw [run, Monitored.run_in_span traced]
  simp only [ran, id]

/-- Without tracing only the work itself is run. -/
theorem run_span_untraced {name : Text} {attributes : List (Text × Datum)}
    (untraced : telemetry.tracing.resource = none) :
    (run (.span name attributes steps)).run telemetry = (runAll steps).run telemetry := by
  rw [run, Monitored.run_in_no_span untraced]

/-- A remedy is not run if there is nothing to take care of. -/
theorem run_attempt_well (ran : (runAll steps).run telemetry = (none, after)) :
    (run (.attempt steps remedy)).run telemetry = (none, after) := by
  rw [run, StateT.run_bind, ran]
  rfl

/-- Where work fails, all that counts from there on is its remedy. -/
theorem run_attempt_failed {failure : Failure}
    (ran : (runAll steps).run telemetry = (some failure, after)) :
    (run (.attempt steps remedy)).run telemetry = (runAll remedy).run after := by
  rw [run, StateT.run_bind, ran]
  rfl

/-- Behind a job that ends well the next ones are run. -/
theorem runAll_cons_well (ran : (run job).run telemetry = (none, after)) :
    (runAll (job :: jobs)).run telemetry = (runAll jobs).run after := by
  rw [runAll, StateT.run_bind, ran]
  rfl

/-- Behind a failure nothing is run. -/
theorem runAll_cons_failed {failure : Failure}
    (ran : (run job).run telemetry = (some failure, after)) :
    (runAll (job :: jobs)).run telemetry = (some failure, after) := by
  rw [runAll, StateT.run_bind, ran]
  rfl

/-- What follows jobs that end well runs where they have ended. -/
theorem runAll_append_well {first rest : List Job}
    (ran : (runAll first).run telemetry = (none, after)) :
    (runAll (first ++ rest)).run telemetry = (runAll rest).run after := by
  induction first generalizing telemetry with
  | nil =>
    cases ran
    rfl
  | cons job jobs ih =>
    cases done : (run job).run telemetry with
    | mk ending middle =>
      cases ending with
      | none =>
        rw [runAll_cons_well done] at ran
        exact (runAll_cons_well done).trans (ih ran)
      | some failure =>
        rw [runAll_cons_failed done] at ran
        cases ran

end Job

namespace Block

mutual

/-- A block as a job: its failure comes behind its inner blocks, and is caught where the block ends. -/
def job : Block → Job
  | mk name attributes inner failure =>
    .attempt [.span name attributes (jobs inner ++ failure.toList.map .fail)] []

def jobs : List Block → List Job
  | [] => []
  | block :: blocks => job block :: jobs blocks

end

mutual

/-- A block leaves behind what it leaves as a job, and its failure goes no further. -/
theorem run_job (block : Block) (telemetry : Telemetry) :
    (job block).run.run telemetry = (none, (block.run.run telemetry).2) :=
  match block with
  | .mk name attributes inner failure => by
    have body (telemetry : Telemetry) :
        (Job.runAll (jobs inner ++ failure.toList.map .fail)).run telemetry =
          (failure, ((runAll inner).run telemetry).2) := by
      rw [Job.runAll_append_well (runAll_jobs inner telemetry)]
      cases failure <;> rfl
    have inside : (Job.span name attributes (jobs inner ++ failure.toList.map .fail)).run.run telemetry =
        (failure, ((run (.mk name attributes inner failure)).run telemetry).2) := by
      cases resource : telemetry.tracing.resource with
      | none =>
        rw [Job.run_span_untraced resource, body, run, Monitored.run_in_no_span resource]
        rfl
      | some _ =>
        have traced : telemetry.tracing.resource.isSome = true := by rw [resource]; rfl
        rw [Job.run_span traced (body _), run, Monitored.run_in_span traced]
        rfl
    cases failure with
    | none => exact Job.run_attempt_well ((Job.runAll_cons_well inside).trans rfl)
    | some failure => exact (Job.run_attempt_failed (Job.runAll_cons_failed inside)).trans rfl

/-- Blocks leave behind what they leave as jobs. -/
theorem runAll_jobs (blocks : List Block) (telemetry : Telemetry) :
    (Job.runAll (jobs blocks)).run telemetry = (none, ((runAll blocks).run telemetry).2) :=
  match blocks with
  | [] => rfl
  | block :: blocks =>
    (Job.runAll_cons_well (run_job block telemetry)).trans (runAll_jobs blocks _)

end

end Block
end Concordance
