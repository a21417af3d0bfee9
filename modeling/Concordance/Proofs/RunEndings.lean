import Concordance.Proofs.CommandEndings

/-!
How runs end, whatever writes the metrics. Of the failures that a command can meet a few end the run without a
status; for all others the status is one, and each of them is logged. The status is zero if there was none. This
says nothing about what a run is taken to have anyway: memory, stack, leave to read and write, and arguments and
names that are texts.
-/
namespace Concordance.RunEndings

open CommandLine CommandLine.Work CommandSteps CommandEndings FileBuilding FileWriting

/-! ## What can go wrong -/

/-- No file can be written at a path, whatever is to be written. -/
def Unwritable (tree : FileTree) (path : Path) (error : FileError) : Prop :=
  ∀ octets, tree.writeBelow path octets = .error error

section
variable (tree : FileTree) (settings : Settings)

/-- The files that a build reads: there is a worker, the sources can be expanded, and there are files. -/
structure Reads (sources : List Path) (workers : Option Int) (paths : List Path) : Prop where
  staffed : 1 ≤ workers.getD settings.buildMaxWorkers
  found : Sources.files tree sources = .ok paths
  some : paths ≠ []

/-- The index that a command loads, if it loads one. -/
def indexPath? : Command → Option Path
  | .build .. => none
  | .stats index | .query index .. => some (index.getD settings.indexPath)

/-- The failures that end a run without a status: a source whose path is too long, an output that cannot be
written, and a column that is too wide. -/
inductive Escapes : Command → Abort → Prop
  | source {sources output workers error} (staffed : 1 ≤ workers.getD settings.buildMaxWorkers)
      (lost : Sources.files tree sources = .error error) :
      Escapes (.build sources output workers) (.file error)
  | output {sources output workers paths error} (reads : Reads tree settings sources workers paths)
      (good : ∀ path ∈ paths, Build.isPath path = true)
      (failed : Unwritable tree (output.getD settings.indexPath) error)
      (isPath : error.cause ≠ .emptyByte) :
      Escapes (.build sources output workers) (.file error)
  | width {path index} (loaded : Index.load tree (path.getD settings.indexPath) = .ok index)
      (wide : Report.Widths.fit ⟨settings.termColumnWidth, settings.columnWidth⟩
        index.documents.members = false) :
      Escapes (.stats path) (.table .tooWide)

/-- The failures that give a run the status one, each with the notice about it. Of the metrics it is known what
is to be written, as nobody knows whether that matters to the writer. -/
inductive Fails (writer : MetricsWriter) (metrics : Metrics) : Command → Notice → Prop
  | workers {sources output workers} (few : workers.getD settings.buildMaxWorkers < 1) :
      Fails writer metrics (.build sources output workers) (.failed "--max-workers must be >= 1".toList)
  | nothing {sources output workers} (staffed : 1 ≤ workers.getD settings.buildMaxWorkers)
      (found : Sources.files tree sources = .ok []) :
      Fails writer metrics (.build sources output workers) (.noDocuments sources)
  | unreadable {sources output workers paths path error}
      (reads : Reads tree settings sources workers paths) (member : path ∈ Build.usable paths)
      (failed : tree.read path = .error error) :
      Fails writer metrics (.build sources output workers) (.unreadable error)
  | noSource {sources output workers paths} (reads : Reads tree settings sources workers paths)
      (bad : ∃ path ∈ paths, Build.isPath path = false) :
      Fails writer metrics (.build sources output workers) (.failed BuildError.notAPath.message.toList)
  | noOutput {sources output workers paths error} (reads : Reads tree settings sources workers paths)
      (good : ∀ path ∈ paths, Build.isPath path = true)
      (failed : Unwritable tree (output.getD settings.indexPath) error)
      (noPath : error.cause = .emptyByte) :
      Fails writer metrics (.build sources output workers) (.failed error.message)
  | index {command path error} (loads : indexPath? settings command = some path)
      (failed : Index.load tree path = .error error) : Fails writer metrics command (.failed error.message)
  | metrics {path queries json metricsOut index target fault after}
      (loaded : Index.load tree (path.getD settings.indexPath) = .ok index)
      (asked : metricsOut.or settings.metricsPath = some target)
      (failed : metrics.save writer target tree = (some fault, after)) :
      Fails writer metrics (.query path queries json metricsOut) (faultNotice target fault)

/-- What a run of a command ends with: the failures account for the status, and all those that are not the end
of the run are logged. -/
structure Accounted (writer : MetricsWriter) (command : Command) (status : Except Abort Nat)
    (telemetry : Telemetry) : Prop where
  escaped : ∀ abort, status = .error abort ↔ Escapes tree settings command abort
  failed : status = .ok 1 ↔ (∀ abort, ¬ Escapes tree settings command abort) ∧
    ∃ notice, Fails tree settings writer telemetry.metrics command notice
  done : status = .ok 0 ↔ (∀ abort, ¬ Escapes tree settings command abort) ∧
    ∀ notice, ¬ Fails tree settings writer telemetry.metrics command notice
  logged : ∀ notice, Fails tree settings writer telemetry.metrics command notice → telemetry.Logged notice

end

variable {tree : FileTree} {settings : Settings} {writer : MetricsWriter} {command : Command}
  {metrics : Metrics} {telemetry : Telemetry}

theorem unwritable_of_error {path : Path} {octets : List UInt8} {error : FileError}
    (failed : tree.writeBelow path octets = .error error) : Unwritable tree path error :=
  write_below_error failed

theorem Unwritable.unique {path : Path} {error other : FileError}
    (failed : Unwritable tree path error) (again : Unwritable tree path other) : other = error :=
  Except.error.inj ((again []).symm.trans (failed []))

theorem Reads.unique {sources paths others : List Path} {workers : Option Int}
    (reads : Reads tree settings sources workers paths)
    (again : Reads tree settings sources workers others) : others = paths :=
  Except.ok.inj (again.found.symm.trans reads.found)

/-- A run escapes in one way at most. -/
theorem Escapes.unique {abort other : Abort} (escapes : Escapes tree settings command abort)
    (again : Escapes tree settings command other) : other = abort := by
  cases escapes with
  | source staffed lost =>
    cases again with
    | source _ alsoLost => rw [Except.error.inj (alsoLost.symm.trans lost)]
    | output reads => cases lost.symm.trans reads.found
  | output reads good failed isPath =>
    cases again with
    | source _ lost => cases lost.symm.trans reads.found
    | output _ _ alsoFailed => rw [failed.unique alsoFailed]
  | width => cases again with | width => rfl

private theorem accounted_aborted {abort : Abort} (escapes : Escapes tree settings command abort)
    (logged : ∀ notice, Fails tree settings writer telemetry.metrics command notice → telemetry.Logged notice) :
    Accounted tree settings writer command (.error abort) telemetry where
  escaped other := ⟨fun same => Except.error.inj same ▸ escapes,
    fun again => by rw [escapes.unique again]⟩
  failed := ⟨fun same => (nomatch same), fun quiet => absurd escapes (quiet.1 abort)⟩
  done := ⟨fun same => (nomatch same), fun quiet => absurd escapes (quiet.1 abort)⟩
  logged := logged

private theorem accounted_failed {notice : Notice}
    (quiet : ∀ abort, ¬ Escapes tree settings command abort)
    (fails : Fails tree settings writer telemetry.metrics command notice)
    (logged : ∀ notice, Fails tree settings writer telemetry.metrics command notice → telemetry.Logged notice) :
    Accounted tree settings writer command (.ok 1) telemetry where
  escaped abort := ⟨fun same => (nomatch same), fun escapes => absurd escapes (quiet abort)⟩
  failed := ⟨fun _ => ⟨quiet, notice, fails⟩, fun _ => rfl⟩
  done := ⟨fun same => (nomatch same), fun none => absurd fails (none.2 notice)⟩
  logged := logged

private theorem accounted_done (quiet : ∀ abort, ¬ Escapes tree settings command abort)
    (none : ∀ notice, ¬ Fails tree settings writer telemetry.metrics command notice) :
    Accounted tree settings writer command (.ok 0) telemetry where
  escaped abort := ⟨fun same => (nomatch same), fun escapes => absurd escapes (quiet abort)⟩
  failed := ⟨fun same => (nomatch same), fun ⟨_, notice, fails⟩ => absurd fails (none notice)⟩
  done := ⟨fun _ => ⟨quiet, none⟩, fun _ => rfl⟩
  logged notice fails := absurd fails (none notice)

/-- The failures account for what a command comes to. -/
def Settles (tree : FileTree) (settings : Settings) (writer : MetricsWriter) (command : Command)
    (ran : (Except CommandError Nat × Effects) × Telemetry) : Prop :=
  Accounted tree settings writer command (ended ran.1.1) (closed ran.1.1 ran.2)

private theorem file_aborts {error : FileError} (isPath : error.cause ≠ .emptyByte) :
    ofFileError error = .aborted (.file error) := by
  unfold ofFileError
  split
  · next noPath => exact absurd noPath isPath
  · rfl

private theorem file_reported {error : FileError} (noPath : error.cause = .emptyByte) :
    ofFileError error = .reported error.message := by
  unfold ofFileError
  rw [noPath]

/-! ## Builds -/

section
variable {sources paths : List Path} {output : Option Path} {workers : Option Int}

private theorem mem_fileNotices {error : FileError} :
    .unreadable error ∈ (Build.ofFiles tree paths).fileNotices ↔
      ∃ path ∈ paths, tree.read path = .error error := by
  rw [Build.fileNotices, errors_of_files]
  simp only [List.mem_map, Notice.unreadable.injEq, exists_eq_right, List.mem_filterMap]
  refine exists_congr fun path => and_congr_right fun _ => ?_
  unfold failure?
  cases tree.read path <;> simp

private theorem usable_of_good (good : paths.all Build.isPath = true) : Build.usable paths = paths :=
  List.takeWhile_eq_self_iff.mpr (List.all_eq_true.mp good)

/-- A build that has nothing to read ends with the reason for that. -/
private theorem build_unread_accounted (telemetry : Telemetry)
    (unread : ∀ paths, ¬ Reads tree settings sources workers paths) :
    Settles tree settings writer (.build sources output workers)
      (exec (build sources (output.getD settings.indexPath) (workers.getD settings.buildMaxWorkers))
        ⟨tree, []⟩ telemetry) := by
  by_cases few : workers.getD settings.buildMaxWorkers < 1
  · rw [build_unstaffed few]
    refine accounted_failed ?_ (.workers few) ?_
    · rintro abort (⟨staffed, _⟩ | ⟨reads⟩)
      · omega
      · exact unread _ reads
    · intro notice fails
      cases fails with
      | workers => exact Telemetry.logged_note _ _
      | nothing staffed => omega
      | unreadable reads | noSource reads | noOutput reads => exact absurd reads (unread _)
      | index loads => cases loads
  have staffed : 1 ≤ workers.getD settings.buildMaxWorkers := by omega
  cases found : Sources.files tree sources with
  | error error =>
    have isPath : error.cause ≠ .emptyByte := by
      rw [(files_error found).1]
      exact nofun
    rw [build_lost staffed found, file_aborts isPath]
    refine accounted_aborted (.source staffed found) ?_
    intro notice fails
    cases fails with
    | workers => omega
    | nothing _ none => cases found.symm.trans none
    | unreadable reads | noSource reads | noOutput reads => exact absurd reads (unread _)
    | index loads => cases loads
  | ok paths =>
    have none : paths = [] := by
      by_contra some
      exact unread paths ⟨staffed, found, some⟩
    subst none
    rw [build_nothing staffed found]
    refine accounted_failed ?_ (.nothing staffed found) ?_
    · rintro abort (⟨_, lost⟩ | ⟨reads⟩)
      · cases found.symm.trans lost
      · exact unread _ reads
    · intro notice fails
      cases fails with
      | workers => omega
      | nothing => exact Telemetry.logged_note _ _
      | unreadable reads | noSource reads | noOutput reads => exact absurd reads (unread _)
      | index loads => cases loads

/-- A build with a source that is no path ends there. -/
private theorem build_bad_accounted (telemetry : Telemetry)
    (reads : Reads tree settings sources workers paths) (bad : paths.all Build.isPath = false) :
    Settles tree settings writer (.build sources output workers)
      (exec (build sources (output.getD settings.indexPath) (workers.getD settings.buildMaxWorkers))
        ⟨tree, []⟩ telemetry) := by
  have noSource : ∃ path ∈ paths, Build.isPath path = false := by simpa using bad
  obtain ⟨source, here, noPath⟩ := noSource
  rw [build_refused reads.staffed reads.found reads.some bad]
  refine accounted_failed ?_ (.noSource reads ⟨source, here, noPath⟩) ?_
  · rintro abort (⟨_, lost⟩ | ⟨again, good⟩)
    · cases reads.found.symm.trans lost
    · obtain rfl := reads.unique again
      exact Bool.noConfusion (noPath.symm.trans (good source here))
  · intro notice fails
    cases fails with
    | workers few => exact absurd reads.staffed (by omega)
    | nothing _ none => exact absurd (Except.ok.inj (reads.found.symm.trans none)) reads.some
    | unreadable again member failed =>
      obtain rfl := reads.unique again
      exact (logged_noted (.inr (mem_fileNotices.mpr ⟨_, member, failed⟩))).note _
    | noSource => exact Telemetry.logged_note _ _
    | noOutput again good =>
      obtain rfl := reads.unique again
      exact Bool.noConfusion (noPath.symm.trans (good source here))
    | index loads => cases loads

/-- With files to read, only these can fail, and the output. -/
private theorem build_fails {P : Notice → Prop}
    (reads : Reads tree settings sources workers paths) (good : paths.all Build.isPath = true)
    (files : ∀ notice ∈ (Build.ofFiles tree paths).fileNotices, P notice)
    (written : ∀ error, Unwritable tree (output.getD settings.indexPath) error →
      error.cause = .emptyByte → P (.failed error.message)) :
    ∀ notice, Fails tree settings writer metrics (.build sources output workers) notice → P notice := by
  have every := List.all_eq_true.mp good
  intro notice fails
  cases fails with
  | workers few => exact absurd reads.staffed (by omega)
  | nothing _ none => exact absurd (Except.ok.inj (reads.found.symm.trans none)) reads.some
  | unreadable again member failed =>
    obtain rfl := reads.unique again
    rw [usable_of_good good] at member
    exact files _ (mem_fileNotices.mpr ⟨_, member, failed⟩)
  | noSource again bad =>
    obtain rfl := reads.unique again
    obtain ⟨path, member, noPath⟩ := bad
    exact Bool.noConfusion (noPath.symm.trans (every path member))
  | noOutput _ _ failed noPath => exact written _ failed noPath
  | index loads => cases loads

/-- A build of files ends with writing the output. -/
private theorem build_good_accounted (telemetry : Telemetry)
    (reads : Reads tree settings sources workers paths) (good : paths.all Build.isPath = true) :
    Settles tree settings writer (.build sources output workers)
      (exec (build sources (output.getD settings.indexPath) (workers.getD settings.buildMaxWorkers))
        ⟨tree, []⟩ telemetry) := by
  have every := List.all_eq_true.mp good
  -- The output comes last, so whatever cannot be read has been logged by then.
  have told : ∀ notice ∈ (Build.ofFiles tree paths).fileNotices,
      (noted telemetry (Build.ofFiles tree paths).notices).Logged notice :=
    fun notice member => logged_noted (.inr (List.mem_append_left _ member))
  cases saved : (Build.ofFiles tree paths).index.save tree (output.getD settings.indexPath) with
  | error error =>
    have failed : Unwritable tree (output.getD settings.indexPath) error := unwritable_of_error saved
    rw [build_unsaved reads.staffed reads.found reads.some good saved]
    by_cases noPath : error.cause = .emptyByte
    · rw [file_reported noPath]
      refine accounted_failed ?_ (.noOutput reads every failed noPath) ?_
      · rintro abort (⟨_, lost⟩ | ⟨_, _, again, isPath⟩)
        · cases reads.found.symm.trans lost
        · rw [failed.unique again] at isPath
          exact isPath noPath
      · refine build_fails reads good (fun notice member => (told notice member).note _) ?_
        intro other again _
        rw [failed.unique again]
        exact Telemetry.logged_note _ _
    · rw [file_aborts noPath]
      refine accounted_aborted (.output reads every failed noPath) (build_fails reads good told ?_)
      intro other again isNone
      rw [failed.unique again] at isNone
      exact absurd isNone noPath
  | ok written =>
    have writable : ∀ error, ¬ Unwritable tree (output.getD settings.indexPath) error := by
      intro error failed
      cases saved.symm.trans (failed _)
    have quiet : ∀ abort, ¬ Escapes tree settings (.build sources output workers) abort := by
      rintro abort (⟨_, lost⟩ | ⟨_, _, failed⟩)
      · cases reads.found.symm.trans lost
      · exact writable _ failed
    obtain ⟨t, ran⟩ := build_saved reads.staffed reads.found reads.some good saved
    rw [ran]
    cases errors : (Build.ofFiles tree paths).errors with
    | nil =>
      refine accounted_done quiet (build_fails reads good ?_ fun _ failed => absurd failed (writable _))
      intro notice member
      rw [Build.fileNotices, errors] at member
      exact List.not_mem_nil member
    | cons first rest =>
      have unreadable : .unreadable first ∈ (Build.ofFiles tree paths).fileNotices := by
        simp [Build.fileNotices, errors]
      obtain ⟨path, member, failed⟩ := mem_fileNotices.mp unreadable
      rw [← usable_of_good good] at member
      refine accounted_failed quiet (.unreadable reads member failed) (build_fails reads good ?_ ?_)
      · exact fun notice member => (told notice member).note _
      · exact fun _ failed => absurd failed (writable _)

private theorem build_accounted (telemetry : Telemetry) :
    Settles tree settings writer (.build sources output workers)
      (exec (build sources (output.getD settings.indexPath) (workers.getD settings.buildMaxWorkers))
        ⟨tree, []⟩ telemetry) := by
  by_cases read : ∃ paths, Reads tree settings sources workers paths
  · obtain ⟨paths, reads⟩ := read
    cases good : paths.all Build.isPath with
    | false => exact build_bad_accounted telemetry reads good
    | true => exact build_good_accounted telemetry reads good
  · exact build_unread_accounted telemetry (not_exists.mp read)

end

/-! ## Tables and answers -/

/-- A command whose index cannot be loaded says so and ends. -/
private theorem unloaded_accounted {path : Path} {error : LoadError}
    (loads : indexPath? settings command = some path) (failed : Index.load tree path = .error error) :
    Accounted tree settings writer command (.ok 1) (telemetry.note (.failed error.message)) := by
  refine accounted_failed ?_ (.index loads failed) ?_
  · intro abort escapes
    cases escapes with
    | source | output => cases loads
    | width loaded =>
      cases loads
      cases loaded.symm.trans failed
  · intro notice fails
    cases fails with
    | workers | nothing | unreadable | noSource | noOutput => cases loads
    | index again alsoFailed =>
      cases loads.symm.trans again
      cases failed.symm.trans alsoFailed
      exact Telemetry.logged_note _ _
    | metrics loaded =>
      cases loads
      cases loaded.symm.trans failed

private theorem stats_accounted (path : Option Path) (telemetry : Telemetry) :
    Settles tree settings writer (.stats path)
      (exec (stats (path.getD settings.indexPath) ⟨settings.termColumnWidth, settings.columnWidth⟩)
        ⟨tree, []⟩ telemetry) := by
  cases loaded : Index.load tree (path.getD settings.indexPath) with
  | error error =>
    obtain ⟨later, ran⟩ := stats_unloaded telemetry loaded
    rw [ran]
    exact unloaded_accounted rfl loaded
  | ok index =>
    have sound (metrics : Metrics) (notice : Notice) :
        ¬ Fails tree settings writer metrics (.stats path) notice := by
      intro fails
      cases fails with
      | index loads failed =>
        cases loads
        cases loaded.symm.trans failed
    cases fit : Report.Widths.fit ⟨settings.termColumnWidth, settings.columnWidth⟩
        index.documents.members with
    | false =>
      obtain ⟨later, ran⟩ := stats_unfit telemetry loaded fit
      rw [ran]
      exact accounted_aborted (.width loaded fit) fun notice fails => absurd fails (sound _ notice)
    | true =>
      obtain ⟨output, later, ran⟩ := stats_printed telemetry loaded fit
      rw [ran]
      refine accounted_done ?_ (sound _)
      intro abort escapes
      cases escapes with
      | width again wide =>
        cases loaded.symm.trans again
        cases fit.symm.trans wide

section
variable {path metricsOut : Option Path} {queries : List Text} {json : Bool}

private theorem query_quiet (abort : Abort) :
    ¬ Escapes tree settings (.query path queries json metricsOut) abort := nofun

/-- With an index, a query can only fail to write the metrics. -/
private theorem query_fails {P : Notice → Prop} {index : Index}
    (loaded : Index.load tree (path.getD settings.indexPath) = .ok index)
    (unwritten : ∀ target fault after, metricsOut.or settings.metricsPath = some target →
      metrics.save writer target tree = (some fault, after) → P (faultNotice target fault)) :
    ∀ notice, Fails tree settings writer metrics (.query path queries json metricsOut) notice →
      P notice := by
  intro notice fails
  cases fails with
  | index loads failed =>
    cases loads
    cases loaded.symm.trans failed
  | metrics _ asked failed => exact unwritten _ _ _ asked failed

private theorem query_accounted (request : Request) (telemetry : Telemetry) :
    Settles tree settings request.writer (.query path queries json metricsOut)
      (exec (query request settings (path.getD settings.indexPath) queries json
        (metricsOut.or settings.metricsPath)) ⟨tree, []⟩ telemetry) := by
  cases loaded : Index.load tree (path.getD settings.indexPath) with
  | error error =>
    obtain ⟨later, ran⟩ := query_unloaded telemetry loaded
    rw [ran]
    exact unloaded_accounted rfl loaded
  | ok index =>
    obtain ⟨output, later, answered⟩ := query_answered telemetry loaded
    rw [answered]
    cases asked : metricsOut.or settings.metricsPath with
    | none =>
      refine accounted_done query_quiet (query_fails loaded ?_)
      intro target fault after alsoAsked
      cases asked.symm.trans alsoAsked
    | some target =>
      -- The notice at the end is not counted, so the metrics are still those that were to be written.
      rcases saved : later.metrics.save request.writer target tree with ⟨result, after⟩
      cases result with
      | none =>
        rw [metrics_written saved]
        refine accounted_done query_quiet (query_fails loaded ?_)
        intro other fault left alsoAsked failed
        cases asked.symm.trans alsoAsked
        simp only [closed, Telemetry.metrics_note] at failed
        cases saved.symm.trans failed
      | some fault =>
        obtain ⟨status, reported⟩ := metrics_unwritten saved
        rw [Settles, status, reported]
        refine accounted_failed query_quiet
          (.metrics loaded asked (by rw [Telemetry.metrics_note]; exact saved)) (query_fails loaded ?_)
        intro other another left alsoAsked again
        cases asked.symm.trans alsoAsked
        rw [Telemetry.metrics_note] at again
        cases saved.symm.trans again
        exact Telemetry.logged_note _ _

end

/-! ## Runs -/

theorem command_accounted (request : Request) (asked : Command) (telemetry : Telemetry) :
    Settles tree settings request.writer asked
      (exec (CommandLine.command request settings asked) ⟨tree, []⟩ telemetry) := by
  cases asked with
  | build => exact build_accounted telemetry
  | stats path => exact stats_accounted path telemetry
  | query => exact query_accounted request telemetry

/-- A run sets tracing up and then gives what its command comes to. -/
private theorem finish_of_command (request : Request) (arguments : CommandLine.Arguments)
    (telemetry : Telemetry) :
    let finished := finish request arguments settings telemetry
    let ran := exec (CommandLine.command request settings arguments.command) ⟨request.tree, []⟩
      ((configureTracing arguments settings).run telemetry).2
    finished.status = ended ran.1.1 ∧ finished.telemetry = closed ran.1.1 ran.2 := by
  have traced : exec
      (do monitored (configureTracing arguments settings); status request settings arguments.command)
      ⟨request.tree, []⟩ telemetry = exec (status request settings arguments.command) ⟨request.tree, []⟩
        ((configureTracing arguments settings).run telemetry).2 :=
    exec_bind_ok (exec_monitored _)
  obtain ⟨same, reported⟩ := exec_status request settings arguments.command ⟨request.tree, []⟩
    ((configureTracing arguments settings).run telemetry).2
  dsimp only
  rw [← same, ← reported, ← traced]
  exact ⟨rfl, rfl⟩

/-- Whatever a run is asked for, the failures it meets account for its end. -/
theorem finish_accounted (request : Request) (arguments : CommandLine.Arguments)
    (telemetry : Telemetry) :
    let finished := finish request arguments settings telemetry
    Accounted request.tree settings request.writer arguments.command finished.status
      finished.telemetry := by
  intro finished
  obtain ⟨status, reported⟩ := finish_of_command request arguments telemetry
  rw [status, reported]
  exact command_accounted request arguments.command _

/-- A command line asks for a level by the name of something else. -/
def Misnames (arguments : CommandLine.Arguments) (error : LevelError) : Prop :=
  ∃ name, name ≠ [] ∧ arguments.logLevel = some name ∧ Level.threshold name = .error error

private theorem logging_error_iff (arguments : CommandLine.Arguments) (settings : Settings)
    (error : LevelError) :
    configureLogging arguments settings = .error error ↔ Misnames arguments error := by
  unfold configureLogging Misnames
  cases arguments.logLevel with
  | none => simp [Except.map]
  | some name =>
    cases name with
    | nil => simp [Except.map]
    | cons c rest => cases threshold : Level.threshold (c :: rest) <;> simp [Except.map, threshold]

private theorem run_configured {request : Request} {arguments : CommandLine.Arguments}
    (asked : CommandLine.Arguments.read request.arguments = .ok arguments)
    (set : Settings.load request.environment request.tree = .ok settings) :
    run request = match configureLogging arguments settings with
      | .error error => .aborted (.level error)
      | .ok telemetry => .finished (finish request arguments settings telemetry) := by
  unfold run
  rw [asked]
  cases configured : configureLogging arguments settings <;> simp only [set, configured]

/-- With a command line that can be read and settings that can be used, and whatever writes the metrics, a run
aborts for a level that is none, for a source whose path is too long, for an output that cannot be written, and
for a column that is too wide. For every other failure that a run can meet here the status is one, without a
failure it is zero, and every failure that does not end the run is logged. What a run is taken to have anyway is
not among these failures: memory and stack, leave to read and write, an environment without other settings,
and arguments, names and input that are texts. -/
theorem failures_account_for_status (request : Request) {arguments : CommandLine.Arguments}
    (asked : CommandLine.Arguments.read request.arguments = .ok arguments)
    (set : Settings.load request.environment request.tree = .ok settings) :
    (∃ error, Misnames arguments error ∧ run request = .aborted (.level error)) ∨
      (∀ error, ¬ Misnames arguments error) ∧ ∃ finished, run request = .finished finished ∧
        Accounted request.tree settings request.writer arguments.command finished.status
          finished.telemetry := by
  rw [run_configured asked set]
  cases configured : configureLogging arguments settings with
  | error error => exact .inl ⟨error, (logging_error_iff ..).mp configured, rfl⟩
  | ok telemetry =>
    refine .inr ⟨?_, _, rfl, finish_accounted request arguments telemetry⟩
    intro error misnames
    cases configured.symm.trans ((logging_error_iff ..).mpr misnames)

/-- A file, an index and a directory. -/
def fileAndDirectory : FileTree :=
  ((FileTree.empty.set ["a.txt".toList] (.file [120])).set ["i.txt".toList]
    (.file (Utf8.encode "x\td: 0\n".toList))).set ["out".toList] .directory

/-- A run with these and without any settings. Metrics are written beside their file first. -/
def runWith (arguments : List String) : Request where
  arguments := arguments.map String.toList
  environment := []
  tree := fileAndDirectory
  input := []
  interactive := false
  writer := .replacing ".1.1".toList

/-- The settings where none are given. -/
def standardSettings : Settings :=
  { indexPath := .ofText "positional_index.txt".toList
    logLevel := .info
    logJson := false
    columnWidth := 10
    termColumnWidth := 15
    scorePrecision := 4
    buildMaxWorkers := 4
    tracingEnabled := true
    traceExporter := .none
    serviceName := Tracing.standardService
    metricsPath := none }

private theorem standard_settings (arguments : List String) :
    Settings.load (runWith arguments).environment (runWith arguments).tree = .ok standardSettings := by
  change Settings.load [] fileAndDirectory = _
  decide +kernel

/-- What was written beside a directory cannot be moved to its place, whatever it is. -/
private theorem moving_refused (metrics : Metrics) :
    metrics.save (.replacing ".1.1".toList) (.ofText "out".toList) fileAndDirectory =
      (some (.refused "[Errno 21] Is a directory: 'out.1.1' -> 'out'".toList), fileAndDirectory) := by
  have made : fileAndDirectory.makeDirectories (Path.ofText "out".toList).parent =
      ⟨none, fileAndDirectory⟩ := by
    rw [FileTree.makeDirectories]
    rfl
  have beside : Path.ofText ((Path.ofText "out".toList).text ++ ".1.1".toList) =
      .ofText "out.1.1".toList := by decide
  have target (octets : List UInt8) : fileAndDirectory.write (.ofText "out".toList) octets =
      .error ⟨.isDirectory, .ofText "out".toList⟩ := rfl
  obtain ⟨written, wrote⟩ : ∃ written, fileAndDirectory.write (.ofText "out.1.1".toList)
      (Utf8.encode (metrics.text 0)) = .ok written := result_of_ok rfl
  have wording : (⟨.isDirectory, .ofText "out.1.1".toList⟩ : FileError).message ++ " -> ".toList ++
      Text.quoted (Path.ofText "out".toList).text =
        "[Errno 21] Is a directory: 'out.1.1' -> 'out'".toList := by decide +kernel
  rw [Metrics.save, made]
  simp only [MetricsWriter.replacing, beside, wrote, target, wording]

/-- Metrics cannot take the place of a directory: the run says so, and its status is one. -/
theorem directory_keeps_its_place :
    let request := runWith ["query", "--index", "i.txt", "-q", "x", "--metrics-out", "out"]
    CommandLine.Arguments.read request.arguments = .ok ⟨none, false, none,
        .query (some (.ofText "i.txt".toList)) [['x']] false (some (.ofText "out".toList))⟩ ∧
      Settings.load request.environment request.tree = .ok standardSettings ∧
      ∃ finished, run request = .finished finished ∧ finished.status = .ok 1 ∧
        finished.telemetry.Logged (.metricsUnwritable (.ofText "out".toList)
          "[Errno 21] Is a directory: 'out.1.1' -> 'out'".toList) := by
  intro request
  have asked : CommandLine.Arguments.read request.arguments = .ok ⟨none, false, none,
      .query (some (.ofText "i.txt".toList)) [['x']] false (some (.ofText "out".toList))⟩ := by
    decide +kernel
  have set : Settings.load request.environment request.tree = .ok standardSettings :=
    standard_settings _
  obtain ⟨index, loaded⟩ : ∃ index, Index.load request.tree (.ofText "i.txt".toList) = .ok index :=
    result_of_ok (by decide +kernel)
  refine ⟨asked, set, ?_⟩
  rcases failures_account_for_status _ asked set with
    ⟨_, ⟨_, _, given, _⟩, _⟩ | ⟨_, finished, ran, accounted⟩
  · cases given
  · have fails : Fails request.tree standardSettings request.writer finished.telemetry.metrics
        (.query (some (.ofText "i.txt".toList)) [['x']] false (some (.ofText "out".toList)))
        (faultNotice (.ofText "out".toList) _) := .metrics loaded rfl (moving_refused _)
    exact ⟨finished, ran, accounted.failed.mpr ⟨nofun, _, fails⟩, accounted.logged _ fails⟩

/-- A directory is no output either, but there the run aborts, and gives no status. -/
theorem directory_as_output_aborts :
    CommandLine.Arguments.read (runWith ["build", "a.txt", "-o", "out"]).arguments =
        .ok ⟨none, false, none,
          .build [.ofText "a.txt".toList] (some (.ofText "out".toList)) none⟩ ∧
      Settings.load (runWith ["build", "a.txt", "-o", "out"]).environment fileAndDirectory =
        .ok standardSettings ∧
      ∃ finished, run (runWith ["build", "a.txt", "-o", "out"]) = .finished finished ∧
        finished.status = .error (.file ⟨.isDirectory, .ofText "out".toList⟩) := by
  have asked : CommandLine.Arguments.read (runWith ["build", "a.txt", "-o", "out"]).arguments =
      .ok ⟨none, false, none, .build [.ofText "a.txt".toList] (some (.ofText "out".toList)) none⟩ := by
    decide +kernel
  have set := standard_settings ["build", "a.txt", "-o", "out"]
  refine ⟨asked, set, _, run_configured asked set, ?_⟩
  apply (finish_accounted _ _ _).escaped _ |>.mpr
  have reads : Reads fileAndDirectory standardSettings [.ofText "a.txt".toList] none
      [.ofText "a.txt".toList] := ⟨by decide, rfl, by simp⟩
  have failed : fileAndDirectory.writeBelow (.ofText "out".toList) [] =
      .error ⟨.isDirectory, .ofText "out".toList⟩ := by
    rw [FileTree.writeBelow, FileTree.saveBelow, FileTree.makeDirectories]
    rfl
  exact .output reads (by decide) (unwritable_of_error failed) (by decide)

end Concordance.RunEndings
