import Concordance.Proofs.CommandSteps
import Concordance.Proofs.FileBuilding

/-!
The ways in which a command ends, one after another: a build, tables, answers, and the metrics behind the
answers. Each ending is given with what leads to it and with what has been reported by then.
-/
namespace Concordance.CommandEndings

open CommandLine CommandLine.Work CommandSteps

variable {tree : FileTree} {printed : Text} {telemetry : Telemetry}

/-! ## Building -/

section
variable {sources paths : List Path} {output : Path} {workers : Int}

theorem build_unstaffed (few : workers < 1) :
    exec (build sources output workers) ⟨tree, printed⟩ telemetry =
      ((.error (.reported "--max-workers must be >= 1".toList), ⟨tree, printed⟩), telemetry) := by
  unfold build
  rw [if_pos few]
  exact exec_bind_error (exec_throw _)

theorem build_lost (staffed : 1 ≤ workers) {error : FileError}
    (lost : Sources.files tree sources = .error error) :
    exec (build sources output workers) ⟨tree, printed⟩ telemetry =
      ((.error (ofFileError error), ⟨tree, printed⟩), telemetry) := by
  unfold build
  rw [if_neg (by omega), exec_bind_ok exec_effects, lost]
  exact exec_bind_error exec_attempt_error

theorem build_nothing (staffed : 1 ≤ workers) (found : Sources.files tree sources = .ok []) :
    exec (build sources output workers) ⟨tree, printed⟩ telemetry =
      ((.ok 1, ⟨tree, printed⟩), telemetry.note (.noDocuments sources)) := by
  unfold build
  rw [if_neg (by omega), exec_bind_ok exec_effects, found, exec_bind_ok exec_attempt_ok]
  exact exec_bind_ok (exec_note _)

private theorem index_refused (staffed : 1 ≤ workers) (bad : paths.all Build.isPath = false) :
    exec (buildIndex paths workers) ⟨tree, printed⟩ telemetry =
      ((.error (.reported BuildError.notAPath.message.toList), ⟨tree, printed⟩),
        noted telemetry (Build.ofFiles tree (Build.usable paths)).fileNotices) := by
  have refused : Build.attempt tree workers paths =
      ((Build.ofFiles tree (Build.usable paths)).fileNotices, .error .notAPath) := by
    simp [Build.attempt, Build.refusal?, bad, Int.not_lt.mpr staffed]
  unfold buildIndex
  rw [exec_bind_ok exec_effects, refused, exec_bind_ok (exec_noteAll _)]
  exact exec_attempt_error

private theorem index_built (staffed : 1 ≤ workers) (good : paths.all Build.isPath = true) :
    exec (buildIndex paths workers) ⟨tree, printed⟩ telemetry =
      ((.ok (Build.ofFiles tree paths), ⟨tree, printed⟩),
        noted telemetry (Build.ofFiles tree paths).notices) := by
  have built : Build.attempt tree workers paths =
      ((Build.ofFiles tree paths).notices, .ok (Build.ofFiles tree paths)) := by
    simp [Build.attempt, Build.refusal?, good, Int.not_lt.mpr staffed]
  unfold buildIndex
  rw [exec_bind_ok exec_effects, built, exec_bind_ok (exec_noteAll _)]
  exact exec_attempt_ok

/-- With files to read, a build goes on to their index. -/
private theorem build_found (staffed : 1 ≤ workers)
    (found : Sources.files tree sources = .ok paths) (some : paths ≠ []) :
    exec (build sources output workers) ⟨tree, printed⟩ telemetry =
      exec (do
        let build ← buildIndex paths workers
        change fun tree => tree.saveBelow output build.index.octets
        monitored (Monitored.note (.wrote build.index.size output))
        writeLine ("Indexed ".toList ++ Integer.decimalNat build.documents.length ++
          " document(s), ".toList ++ Integer.decimalNat build.index.size ++ " term(s) -> ".toList ++
          output.text)
        return statusOf build.errors.isEmpty) ⟨tree, printed⟩ telemetry := by
  unfold build
  rw [if_neg (by omega), exec_bind_ok exec_effects, found, exec_bind_ok exec_attempt_ok,
    if_neg (by simpa using some)]

theorem build_refused (staffed : 1 ≤ workers)
    (found : Sources.files tree sources = .ok paths) (some : paths ≠ [])
    (bad : paths.all Build.isPath = false) :
    exec (build sources output workers) ⟨tree, printed⟩ telemetry =
      ((.error (.reported BuildError.notAPath.message.toList), ⟨tree, printed⟩),
        noted telemetry (Build.ofFiles tree (Build.usable paths)).fileNotices) := by
  rw [build_found staffed found some]
  exact exec_bind_error (index_refused staffed bad)

theorem build_unsaved (staffed : 1 ≤ workers)
    (found : Sources.files tree sources = .ok paths) (some : paths ≠ [])
    (good : paths.all Build.isPath = true) {error : FileError}
    (failed : (Build.ofFiles tree paths).index.save tree output = .error error) :
    exec (build sources output workers) ⟨tree, printed⟩ telemetry =
      ((.error (ofFileError error),
          ⟨(tree.saveBelow output (Build.ofFiles tree paths).index.octets).tree, printed⟩),
        noted telemetry (Build.ofFiles tree paths).notices) := by
  rw [build_found staffed found some, exec_bind_ok (index_built staffed good)]
  refine exec_bind_error (exec_change_error ?_)
  exact failed

private theorem exec_saved {octets : List UInt8} {written : FileTree}
    (saved : (tree.saveBelow output octets).result = .ok written) :
    exec (change fun tree => tree.saveBelow output octets) ⟨tree, printed⟩ telemetry =
      ((.ok (), ⟨written, printed⟩), telemetry) := exec_change_ok saved

theorem build_saved (staffed : 1 ≤ workers)
    (found : Sources.files tree sources = .ok paths) (some : paths ≠ [])
    (good : paths.all Build.isPath = true) {written : FileTree}
    (saved : (Build.ofFiles tree paths).index.save tree output = .ok written) :
    ∃ t, exec (build sources output workers) ⟨tree, printed⟩ telemetry =
      ((.ok (statusOf (Build.ofFiles tree paths).errors.isEmpty), ⟨written, t⟩),
        (noted telemetry (Build.ofFiles tree paths).notices).note
          (.wrote (Build.ofFiles tree paths).index.size output)) := by
  rw [build_found staffed found some, exec_bind_ok (index_built staffed good)]
  apply Exists.intro
  refine (exec_bind_ok (exec_saved saved)).trans ?_
  refine (exec_bind_ok (exec_note _)).trans ?_
  exact exec_bind_ok (exec_write _)

end

/-! ## Loading -/

section
variable {path : Path} {index : Index}

/-- Loading gives the index of a path, or reports why there is none. -/
private theorem exec_load (path : Path) (telemetry : Telemetry) :
    ∃ later, exec (loadIndex path) ⟨tree, printed⟩ telemetry =
      (((Index.load tree path).mapError (.reported ·.message), ⟨tree, printed⟩), later) := by
  refine ⟨noted telemetry ((Loading.ofFile tree path).notices path), ?_⟩
  unfold loadIndex Index.load
  rw [exec_bind_ok exec_effects]
  refine (exec_bind_ok (exec_noteAll _)).trans ?_
  cases (Loading.ofFile tree path).result with
  | ok index => exact exec_attempt_ok
  | error error => exact exec_attempt_error

/-! ## Tables -/

variable {widths : Report.Widths}

theorem stats_unloaded {error : LoadError} (telemetry : Telemetry)
    (failed : Index.load tree path = .error error) :
    ∃ later, exec (stats path widths) ⟨tree, printed⟩ telemetry =
      ((.error (.reported error.message), ⟨tree, printed⟩), later) := by
  obtain ⟨later, ran⟩ := exec_load path telemetry
  rw [failed] at ran
  exact ⟨later, exec_bind_error ran⟩

theorem stats_unfit (telemetry : Telemetry) (loaded : Index.load tree path = .ok index)
    (wide : widths.fit index.documents.members = false) :
    ∃ later, exec (stats path widths) ⟨tree, printed⟩ telemetry =
      ((.error (.aborted (.table .tooWide)), ⟨tree, printed⟩), later) := by
  obtain ⟨later, ran⟩ := exec_load path telemetry
  rw [loaded] at ran
  refine ⟨later, (exec_bind_ok ran).trans (exec_bind_error ?_)⟩
  rw [Report.Widths.check, wide]
  exact exec_attempt_error

theorem stats_printed (telemetry : Telemetry) (loaded : Index.load tree path = .ok index)
    (fit : widths.fit index.documents.members = true) :
    ∃ output later, exec (stats path widths) ⟨tree, printed⟩ telemetry =
      ((.ok 0, ⟨tree, output⟩), later) := by
  obtain ⟨later, ran⟩ := exec_load path telemetry
  rw [loaded] at ran
  have checked : widths.check index.documents.members = .ok () := by
    rw [Report.Widths.check, fit]
    rfl
  rw [stats, exec_bind_ok ran]
  simp only [checked]
  rw [exec_bind_ok exec_attempt_ok]
  exact (prints_write _).seq ((prints_write _).seq ((prints_write _).seq (prints_pure 0))) _ _ _

/-! ## Answers -/

variable {request : Request} {settings : Settings} {queries : List Text} {json : Bool}
  {metrics : Option Path}

theorem query_unloaded {error : LoadError} (telemetry : Telemetry)
    (failed : Index.load tree path = .error error) :
    ∃ later, exec (query request settings path queries json metrics) ⟨tree, printed⟩ telemetry =
      ((.error (.reported error.message), ⟨tree, printed⟩), later) := by
  obtain ⟨later, ran⟩ := exec_load path telemetry
  rw [failed] at ran
  exact ⟨later, exec_bind_error ran⟩

/-- With an index all queries are answered, and only the metrics are left to be written. -/
theorem query_answered (telemetry : Telemetry) (loaded : Index.load tree path = .ok index) :
    ∃ output later, exec (query request settings path queries json metrics) ⟨tree, printed⟩ telemetry =
      exec (match metrics with | some path => writeMetrics request.writer path | none => pure 0)
        ⟨tree, output⟩ later := by
  obtain ⟨ready, ran⟩ := exec_load path telemetry
  rw [loaded] at ran
  unfold query
  rw [exec_bind_ok ran, exec_bind_ok (exec_monitored _)]
  cases queries with
  | nil =>
    obtain ⟨output, later, answered⟩ := prints_answerInput index json settings.scorePrecision.toNat
      (!json && request.interactive) request.input tree printed ((Monitored.engine index).run ready).2
    exact ⟨output, later, exec_bind_ok answered⟩
  | cons first rest =>
    obtain ⟨output, later, answered⟩ := prints_each
      (prints_answer index json settings.scorePrecision.toNat) (first :: rest) tree printed
      ((Monitored.engine index).run ready).2
    exact ⟨output, later, exec_bind_ok answered⟩

end

/-! ## The status of a command -/

/-- How a run ends whose command ends as given. -/
def ended : Except CommandError Nat → Except Abort Nat
  | .ok status => .ok status
  | .error (.aborted abort) => .error abort
  | .error (.reported _) => .ok 1

/-- Telemetry at the end of such a run: what a command reports is logged. -/
def closed (result : Except CommandError Nat) (telemetry : Telemetry) : Telemetry :=
  match result with
  | .error (.reported reason) => telemetry.note (.failed reason)
  | _ => telemetry

theorem exec_status (request : Request) (settings : Settings) (asked : Command) (effects : Effects)
    (telemetry : Telemetry) :
    let ran := exec (command request settings asked) effects telemetry
    let finished := exec (status request settings asked) effects telemetry
    ended finished.1.1 = ended ran.1.1 ∧ finished.2 = closed ran.1.1 ran.2 := by
  rcases ran : exec (command request settings asked) effects telemetry with ⟨⟨result, after⟩, later⟩
  cases result with
  | ok n =>
    have finished : exec (status request settings asked) effects telemetry = ((.ok n, after), later) :=
      exec_try_ok ran
    rw [finished]
    exact ⟨rfl, rfl⟩
  | error error =>
    cases error with
    | reported reason =>
      have finished : exec (status request settings asked) effects telemetry =
          ((.ok 1, after), later.note (.failed reason)) :=
        (exec_try_error ran).trans (exec_bind_ok (exec_note _))
      rw [finished]
      exact ⟨rfl, rfl⟩
    | aborted abort =>
      have finished : exec (status request settings asked) effects telemetry =
          ((.error (.aborted abort), after), later) :=
        (exec_try_error ran).trans (exec_throw _)
      rw [finished]
      exact ⟨rfl, rfl⟩

/-! ## Metrics -/

section
variable {writer : MetricsWriter} {path : Path} {after : FileTree}

/-- The notice about metrics that were not written. -/
def faultNotice (path : Path) : WriteFault → Notice
  | .refused wording => .metricsUnwritable path wording
  | .noPath wording => .failed wording

/-- What the writer makes of the metrics, and of the tree, decides how the command ends. -/
private theorem metrics_ended {fault : Option WriteFault}
    (saved : telemetry.metrics.save writer path tree = (fault, after)) :
    exec (writeMetrics writer path) ⟨tree, printed⟩ telemetry =
      match fault with
      | none => ((.ok 0, ⟨after, printed⟩), telemetry.note (.metricsWritten path))
      | some (.refused wording) =>
        ((.ok 1, ⟨after, printed⟩), telemetry.note (.metricsUnwritable path wording))
      | some (.noPath wording) => ((.error (.reported wording), ⟨after, printed⟩), telemetry) := by
  unfold writeMetrics
  rw [exec_bind_ok exec_telemetry, exec_bind_ok exec_effects]
  simp only [saved]
  rw [exec_bind_ok (exec_modify _)]
  match fault with
  | none => exact exec_bind_ok (exec_note _)
  | some (.refused wording) => exact exec_bind_ok (exec_note _)
  | some (.noPath wording) => exact exec_throw _

theorem metrics_written (saved : telemetry.metrics.save writer path tree = (none, after)) :
    exec (writeMetrics writer path) ⟨tree, printed⟩ telemetry =
      ((.ok 0, ⟨after, printed⟩), telemetry.note (.metricsWritten path)) :=
  metrics_ended saved

/-- Metrics that are not written give the status one, and a notice about the fault, whichever it is. -/
theorem metrics_unwritten {fault : WriteFault}
    (failed : telemetry.metrics.save writer path tree = (some fault, after)) :
    let ran := exec (writeMetrics writer path) ⟨tree, printed⟩ telemetry
    ended ran.1.1 = .ok 1 ∧ closed ran.1.1 ran.2 = telemetry.note (faultNotice path fault) := by
  rw [metrics_ended failed]
  cases fault <;> exact ⟨rfl, rfl⟩

end

end Concordance.CommandEndings
