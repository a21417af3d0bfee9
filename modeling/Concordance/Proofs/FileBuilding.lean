import Concordance.Proofs.FileWriting
import Concordance.Telemetry.Notice

/-!
What a build reads. Every file stands for itself: one that can be read gives a document under its name,
one that cannot gives an error, and neither has an effect on the others.
-/
namespace Concordance.FileBuilding
open FileWriting

/-- The document in a file, if the file can be read. -/
def document? (tree : FileTree) (path : Path) : Option (DocId × Text) :=
  match tree.read path with
  | .ok octets => some (path.name, Build.textOf octets)
  | .error _ => none

/-- Why a file cannot be read, if it cannot. -/
def failure? (tree : FileTree) (path : Path) : Option FileError :=
  match tree.read path with
  | .ok _ => none
  | .error error => some error

variable {tree : FileTree} {path : Path} {paths : List Path}

private theorem file_step (tree : FileTree) (build : Build) (path : Path) :
    (Build.file tree build path).documents = build.documents ++ (document? tree path).toList ∧
      (Build.file tree build path).errors = build.errors ++ (failure? tree path).toList := by
  unfold Build.file document? failure?
  cases tree.read path with
  | ok octets => exact ⟨rfl, (List.append_nil _).symm⟩
  | error error => exact ⟨(List.append_nil _).symm, rfl⟩

private theorem files_run (build : Build) (paths : List Path) :
    (paths.foldl (Build.file tree) build).documents =
        build.documents ++ paths.filterMap (document? tree) ∧
      (paths.foldl (Build.file tree) build).errors =
        build.errors ++ paths.filterMap (failure? tree) := by
  induction paths generalizing build with
  | nil => simp
  | cons path rest ih =>
    obtain ⟨documents, errors⟩ := file_step tree build path
    rw [List.foldl_cons, (ih _).1, (ih _).2, documents, errors, List.append_assoc,
      List.append_assoc, List.filterMap_cons, List.filterMap_cons]
    constructor
    · cases document? tree path <;> rfl
    · cases failure? tree path <;> rfl

/-- The documents of a build are those of the files that can be read, in the order of the files. -/
theorem documents_of_files (tree : FileTree) (paths : List Path) :
    (Build.ofFiles tree paths).documents = paths.filterMap (document? tree) :=
  (files_run Build.start paths).1

/-- The errors of a build are those of the files that cannot be read, in the order of the files. -/
theorem errors_of_files (tree : FileTree) (paths : List Path) :
    (Build.ofFiles tree paths).errors = paths.filterMap (failure? tree) :=
  (files_run Build.start paths).2

/-- What can be read is reached by a path. -/
theorem path_of_readable {octets : List UInt8} (readable : tree.read path = .ok octets) :
    Build.isPath path = true := by
  unfold FileTree.read at readable
  split at readable
  · rename_i bytes located
    have accepted := (locate_ok_iff.mp located).1
    unfold FileTree.checkPath at accepted
    split at accepted
    · cases accepted
    · rename_i noNull
      simpa [Build.isPath] using noNull
  all_goals cases readable

/-- With a worker and files that have paths, a build goes through. -/
theorem attempt_of_paths {workers : Int} (staffed : 1 ≤ workers)
    (real : ∀ path ∈ paths, Build.isPath path = true) :
    (Build.attempt tree workers paths).2 = .ok (Build.ofFiles tree paths) := by
  have accepted : Build.refusal? workers paths = none := by
    unfold Build.refusal?
    rw [if_neg (by omega), if_pos (List.all_eq_true.mpr real)]
  unfold Build.attempt
  rw [accepted]

/-- With a worker and files that can all be read, a build succeeds without errors. -/
theorem attempt_readable {workers : Int} (staffed : 1 ≤ workers)
    (readable : ∀ path ∈ paths, ∃ octets, tree.read path = .ok octets) :
    (Build.attempt tree workers paths).2 = .ok (Build.ofFiles tree paths) ∧
      (Build.ofFiles tree paths).errors = [] := by
  constructor
  · apply attempt_of_paths staffed
    intro path member
    obtain ⟨octets, read⟩ := readable path member
    exact path_of_readable read
  · rw [errors_of_files, List.filterMap_eq_nil_iff]
    intro path member
    obtain ⟨octets, read⟩ := readable path member
    unfold failure?
    rw [read]

/-! ## Sources that cannot be expanded -/

private theorem mapM_error {α β ε : Type} {f : α → Except ε β} {xs : List α} {error : ε}
    (failed : xs.mapM f = .error error) : ∃ x ∈ xs, f x = .error error := by
  induction xs with
  | nil => cases failed
  | cons x rest ih =>
    rw [List.mapM_cons] at failed
    cases head : f x with
    | error other =>
      rw [head] at failed
      cases failed
      exact ⟨x, List.mem_cons_self, head⟩
    | ok value =>
      cases tail : rest.mapM f with
      | error other =>
        rw [head, tail] at failed
        cases failed
        obtain ⟨y, member, found⟩ := ih tail
        exact ⟨y, List.mem_cons_of_mem _ member, found⟩
      | ok values =>
        rw [head, tail] at failed
        cases failed

/-- Only a path that is too long cannot be looked at. -/
private theorem look_error {error : FileError} (failed : Sources.look tree path = .error error) :
    error = ⟨.nameTooLong, path⟩ := by
  unfold Sources.look at failed
  split at failed <;> cases failed
  rfl

private theorem fileAt_error {error : FileError} (failed : Sources.fileAt tree path = .error error) :
    error = ⟨.nameTooLong, path⟩ := by
  unfold Sources.fileAt at failed
  cases looked : Sources.look tree path with
  | error other =>
    rw [looked] at failed
    cases failed
    exact look_error looked
  | ok found =>
    rw [looked] at failed
    simp only [bind, Except.bind] at failed
    split at failed <;> cases failed

private theorem expand_error {source : Path} {error : FileError}
    (failed : Sources.expand tree source = .error error) :
    ∃ path, error = ⟨.nameTooLong, path⟩ ∧ (path = source ∨ ∃ name, path = source.child name) := by
  unfold Sources.expand at failed
  cases looked : Sources.look tree source with
  | error other =>
    rw [looked] at failed
    cases failed
    exact ⟨source, look_error looked, .inl rfl⟩
  | ok found =>
    rw [looked] at failed
    simp only [bind, Except.bind] at failed
    split at failed
    · split at failed
      · next place other failing =>
        cases failed
        obtain ⟨child, member, lost⟩ := mapM_error failing
        obtain ⟨name, _, rfl⟩ := List.mem_map.mp member
        exact ⟨_, fileAt_error lost, .inr ⟨name, rfl⟩⟩
      · cases failed
    · cases failed

/-- Only a source that is too long, or has a file whose path is, cannot be expanded. -/
theorem files_error {sources : List Path} {error : FileError}
    (failed : Sources.files tree sources = .error error) :
    error.cause = .nameTooLong ∧
      ∃ source ∈ sources, error.path = source ∨ ∃ name, error.path = source.child name := by
  unfold Sources.files at failed
  cases expanded : sources.mapM (Sources.expand tree) with
  | ok paths =>
    rw [expanded] at failed
    cases failed
  | error other =>
    rw [expanded] at failed
    cases failed
    obtain ⟨source, member, lost⟩ := mapM_error expanded
    obtain ⟨path, rfl, here⟩ := expand_error lost
    exact ⟨rfl, source, member, here⟩

end Concordance.FileBuilding
