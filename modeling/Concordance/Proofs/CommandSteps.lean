import Concordance.CommandLine.Run
import Concordance.Proofs.SearchAccounting

/-!
The steps of a command one by one: what each gives, and what it leaves of the tree, the output and telemetry.
A step that fails is the last one.
-/
namespace Concordance.CommandSteps

open CommandLine CommandLine.Work

variable {α β : Type} {effects after : Effects} {telemetry later : Telemetry}

/-- What a piece of work gives, and what it leaves behind. -/
def exec (work : Work α) (effects : Effects) (telemetry : Telemetry) :
    (Except CommandError α × Effects) × Telemetry :=
  (work.run.run effects).run telemetry

theorem exec_pure (a : α) : exec (pure a) effects telemetry = ((.ok a, effects), telemetry) := rfl

theorem exec_throw (error : CommandError) :
    exec (throw error : Work α) effects telemetry = ((.error error, effects), telemetry) := rfl

private theorem exec_bind (work : Work α) (next : α → Work β) :
    exec (work >>= next) effects telemetry =
      let ran := exec work effects telemetry
      match ran.1.1 with
      | .ok a => exec (next a) ran.1.2 ran.2
      | .error error => ((.error error, ran.1.2), ran.2) := by
  simp only [exec, ExceptT.run_bind, StateT.run_bind]
  generalize StateT.run ((ExceptT.run work).run effects) telemetry = ran
  obtain ⟨⟨result, after⟩, later⟩ := ran
  cases result <;> rfl

/-- Work that gives something goes on with it. -/
theorem exec_bind_ok {work : Work α} {next : α → Work β} {a : α}
    (ran : exec work effects telemetry = ((.ok a, after), later)) :
    exec (work >>= next) effects telemetry = exec (next a) after later := by
  rw [exec_bind, ran]

/-- Work that fails goes no further. -/
theorem exec_bind_error {work : Work α} {next : α → Work β} {error : CommandError}
    (ran : exec work effects telemetry = ((.error error, after), later)) :
    exec (work >>= next) effects telemetry = ((.error error, after), later) := by
  rw [exec_bind, ran]

private theorem exec_tryCatch (work : Work α) (handler : CommandError → Work α) :
    exec (tryCatch work handler) effects telemetry =
      let ran := exec work effects telemetry
      match ran.1.1 with
      | .ok _ => ran
      | .error error => exec (handler error) ran.1.2 ran.2 := by
  -- No equation gives the run of a handler in such a stack, so its layers are opened.
  unfold exec ExceptT.run StateT.run
  simp only [tryCatch, tryCatchThe, MonadExceptOf.tryCatch, ExceptT.tryCatch, ExceptT.mk, bind,
    StateT.bind]
  obtain ⟨⟨result, after⟩, later⟩ := work effects telemetry
  cases result <;> rfl

/-- Work that gives something needs no handler. -/
theorem exec_try_ok {work : Work α} {handler : CommandError → Work α} {a : α}
    (ran : exec work effects telemetry = ((.ok a, after), later)) :
    exec (tryCatch work handler) effects telemetry = ((.ok a, after), later) := by
  rw [exec_tryCatch, ran]

/-- The handler goes on where work failed. -/
theorem exec_try_error {work : Work α} {handler : CommandError → Work α} {error : CommandError}
    (ran : exec work effects telemetry = ((.error error, after), later)) :
    exec (tryCatch work handler) effects telemetry = exec (handler error) after later := by
  rw [exec_tryCatch, ran]

/-! ## Effects -/

theorem exec_effects : exec (getThe Effects) effects telemetry = ((.ok effects, effects), telemetry) := rfl

theorem exec_telemetry : exec (getThe Telemetry) effects telemetry = ((.ok telemetry, effects), telemetry) := rfl

theorem exec_modify (change : Effects → Effects) :
    exec (modifyThe Effects change) effects telemetry = ((.ok (), change effects), telemetry) := rfl

theorem exec_write (t : Text) : exec (write t) effects telemetry =
    ((.ok (), { effects with output := effects.output ++ t }), telemetry) := rfl

theorem exec_monitored (work : Monitored α) :
    exec (monitored work) effects telemetry =
      ((.ok (work.run telemetry).1, effects), (work.run telemetry).2) := rfl

theorem exec_note (notice : Notice) : exec (monitored (Monitored.note notice)) effects telemetry =
    ((.ok (), effects), telemetry.note notice) := rfl

/-- Telemetry after some more notices. -/
def noted (telemetry : Telemetry) (notices : List Notice) : Telemetry :=
  notices.foldl Telemetry.note telemetry

theorem exec_noteAll (notices : List Notice) :
    exec (monitored (Monitored.noteAll notices)) effects telemetry =
      ((.ok (), effects), noted telemetry notices) := by
  induction notices generalizing telemetry with
  | nil => rfl
  | cons notice rest ih => exact ih

theorem logged_noted {notices : List Notice} {notice : Notice}
    (reported : telemetry.Logged notice ∨ notice ∈ notices) :
    (noted telemetry notices).Logged notice := by
  induction notices generalizing telemetry with
  | nil => exact reported.resolve_right List.not_mem_nil
  | cons first rest ih =>
    refine ih ?_
    rcases reported with before | member
    · exact .inl (before.note first)
    · rcases List.mem_cons.mp member with rfl | later
      · exact .inl (telemetry.logged_note notice)
      · exact .inr later

/-! ## Parts that may fail -/

section
variable {ε : Type} {failure : ε → CommandError}

theorem exec_attempt_ok {a : α} :
    exec (attempt failure (.ok a)) effects telemetry = ((.ok a, effects), telemetry) := rfl

theorem exec_attempt_error {error : ε} :
    exec (attempt failure (.error error) : Work α) effects telemetry =
      ((.error (failure error), effects), telemetry) := rfl

end

section
variable {f : FileTree → FileTree.Outcome}

private theorem exec_change : exec (change f) effects telemetry =
    ((((f effects.tree).result.map fun _ => ()).mapError ofFileError,
      { effects with tree := (f effects.tree).tree }), telemetry) := by
  unfold change
  refine (exec_bind_ok exec_effects).trans ((exec_bind_ok (exec_modify _)).trans ?_)
  cases f effects.tree with
  | mk failure tree =>
    cases failure with
    | none => exact exec_pure ()
    | some error => exact exec_throw _

theorem exec_change_ok {tree : FileTree} (changed : (f effects.tree).result = .ok tree) :
    exec (change f) effects telemetry = ((.ok (), { effects with tree := tree }), telemetry) := by
  rw [exec_change, changed, FileTree.Outcome.tree_of_result changed]
  rfl

theorem exec_change_error {error : FileError} (failed : (f effects.tree).result = .error error) :
    exec (change f) effects telemetry =
      ((.error (ofFileError error), { effects with tree := (f effects.tree).tree }), telemetry) := by
  rw [exec_change, failed]
  rfl

end

/-! ## Printing -/

/-- Work that gives a result and, apart from what it prints and reports, changes nothing. -/
def Prints (work : Work α) (a : α) : Prop :=
  ∀ tree printed telemetry, ∃ output later,
    exec work ⟨tree, printed⟩ telemetry = ((.ok a, ⟨tree, output⟩), later)

theorem prints_pure (a : α) : Prints (pure a) a := fun _ printed telemetry =>
  ⟨printed, telemetry, exec_pure a⟩

theorem prints_write (t : Text) : Prints (write t) () := fun _ printed telemetry =>
  ⟨printed ++ t, telemetry, exec_write t⟩

theorem Prints.seq {first : Work Unit} {rest : Work α} {a : α} (head : Prints first ())
    (tail : Prints rest a) : Prints (do first; rest) a := by
  intro tree printed telemetry
  obtain ⟨output, later, ran⟩ := head tree printed telemetry
  obtain ⟨more, last, next⟩ := tail tree output later
  exact ⟨more, last, (exec_bind_ok ran).trans next⟩

theorem prints_each {β : Type} {work : β → Work Unit} (each : ∀ item, Prints (work item) ())
    (items : List β) : Prints (items.forM work) () := by
  induction items with
  | nil => exact prints_pure ()
  | cons item rest ih => exact (each item).seq ih

/-- An engine answers every query, so that nothing is left to report or to abort. -/
theorem prints_answer (index : Index) (json : Bool) (places : Nat) (query : Text) :
    Prints (answer (Engine.ofIndex index) json places query) () := by
  intro tree printed telemetry
  unfold answer
  have searched := (SearchAccounting.run_search_counted index query telemetry).1
  rw [exec_bind_ok (exec_monitored _), searched, exec_bind_ok exec_attempt_ok]
  cases json with
  | true => exact prints_write _ _ _ _
  | false => exact (prints_write _).seq (prints_write _) _ _ _

theorem prints_answerEvent (index : Index) (json : Bool) (places : Nat) (prompted : Bool)
    (event : QueryLines.Event) :
    Prints (answerEvent (Engine.ofIndex index) json places prompted event) () := by
  cases event with
  | query query => exact prints_answer index json places query
  | asked =>
    cases prompted with
    | true => exact prints_write _
    | false => exact prints_pure ()

theorem prints_answerInput (index : Index) (json : Bool) (places : Nat) (prompted : Bool)
    (input : Text) :
    Prints (answerInput (Engine.ofIndex index) json places prompted input) () := by
  have loop := prints_each (prints_answerEvent index json places prompted) (QueryLines.events input)
  cases prompted with
  | true => exact (prints_write _).seq loop
  | false => exact loop

end Concordance.CommandSteps
