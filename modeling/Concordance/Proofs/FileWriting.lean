import Concordance.Files.Tree

/-!
A file that was written can be read. Writing puts octets at the place that a path leads to; the way to
that place goes through directories only, so it is still the same way afterwards.
-/
namespace Concordance.FileWriting

variable {tree : FileTree} {place : Place}

/-- Putting something at a place changes nothing elsewhere. -/
theorem at_set_other {other : Place} (node : Node) (different : other ≠ place) :
    (tree.set place node).at? other = tree.at? other := by
  unfold FileTree.at? FileTree.set Assoc.put
  rw [Assoc.get?_update, if_neg different]

/-- What is put where no directory stands is found there. -/
theorem at_set_here (node : Node) (free : tree.at? place ≠ some .directory) :
    (tree.set place node).at? place = some node := by
  unfold FileTree.at? at free
  split at free
  · exact absurd rfl free
  · rename_i inside
    unfold FileTree.at? FileTree.set Assoc.put
    rw [if_neg inside, Assoc.get?_update, if_pos rfl]

/-- One name further on, the only thing that counts is what stands here. -/
private theorem enter_congr {other : FileTree} {start : Place} (name : Text)
    (same : other.at? start = tree.at? start) : other.enter start name = tree.enter start name := by
  unfold FileTree.enter
  rw [same]

private theorem enter_directory {start next : Place} {name : Text}
    (entered : tree.enter start name = .ok next) : tree.at? start = some .directory := by
  unfold FileTree.enter at entered
  split at entered
  · cases entered
  · cases entered
  · rename_i here
    exact here

/-- The way to a place that is no directory does not pass through it. -/
theorem walk_set {start : Place} {names : List Text} (node : Node)
    (walked : tree.walk start names = .ok place) (free : tree.at? place ≠ some .directory) :
    (tree.set place node).walk start names = .ok place := by
  induction names generalizing start with
  | nil => exact walked
  | cons name names ih =>
    unfold FileTree.walk at walked ⊢
    cases entered : tree.enter start name with
    | error cause =>
      rw [entered] at walked
      cases walked
    | ok next =>
      rw [entered] at walked
      have elsewhere : start ≠ place := by
        rintro rfl
        exact free (enter_directory entered)
      rw [enter_congr name (at_set_other node elsewhere), entered]
      exact ih walked

/-- Finding a path is walking from its beginning and looking there. -/
theorem locate_ok_iff {path : Path} {found : Place × Option Node} :
    tree.locate path = .ok found ↔
      FileTree.checkPath path = .ok () ∧
        tree.walk (FileTree.start path) path.parts = .ok found.1 ∧ found.2 = tree.at? found.1 := by
  obtain ⟨place, node⟩ := found
  unfold FileTree.locate
  cases FileTree.checkPath path with
  | error cause => simp [bind, Except.bind]
  | ok accepted =>
    cases tree.walk (FileTree.start path) path.parts with
    | error cause => simp [bind, Except.bind]
    | ok reached =>
      simp only [bind, Except.bind, pure, Except.pure, Except.ok.injEq, Prod.mk.injEq, true_and]
      constructor
      · rintro ⟨rfl, rfl⟩
        exact ⟨rfl, rfl⟩
      · rintro ⟨rfl, rfl⟩
        exact ⟨rfl, rfl⟩

/-- A file that is put at the place of a path is read there. -/
private theorem read_set {path : Path} {node : Option Node} (octets : List UInt8)
    (located : tree.locate path = .ok (place, node)) (free : node ≠ some .directory) :
    (tree.set place (.file octets)).read path = .ok octets := by
  obtain ⟨accepted, walked, found⟩ := locate_ok_iff.mp located
  rw [show node = tree.at? place from found] at free
  have again : (tree.set place (.file octets)).locate path = .ok (place, some (.file octets)) :=
    locate_ok_iff.mpr ⟨accepted, walk_set _ walked free, (at_set_here _ free).symm⟩
  unfold FileTree.read
  rw [again]

/-- What a file was written with is what it is read as. -/
theorem read_write {written : FileTree} {path : Path} {octets : List UInt8}
    (ran : tree.write path octets = .ok written) : written.read path = .ok octets := by
  unfold FileTree.write at ran
  split at ran
  · cases ran
  · cases ran
  · rename_i reached node notDirectory located
    split at ran
    · cases ran
      exact read_set octets located notDirectory
    · cases ran

theorem read_write_below {written : FileTree} {path : Path} {octets : List UInt8}
    (ran : tree.writeBelow path octets = .ok written) : written.read path = .ok octets := by
  rw [FileTree.writeBelow_eq] at ran
  cases made : tree.ensureDirectories path.parent with
  | error error =>
    rw [made] at ran
    cases ran
  | ok below =>
    rw [made] at ran
    exact read_write ran

/-- Whether a file can be written does not depend on what is written. -/
theorem write_error {path : Path} {octets : List UInt8} {error : FileError}
    (failed : tree.write path octets = .error error) (others : List UInt8) :
    tree.write path others = .error error := by
  unfold FileTree.write at failed ⊢
  split at failed
  · exact failed
  · exact failed
  · split at failed
    · cases failed
    · exact failed

theorem write_below_error {path : Path} {octets : List UInt8} {error : FileError}
    (failed : tree.writeBelow path octets = .error error) (others : List UInt8) :
    tree.writeBelow path others = .error error := by
  rw [FileTree.writeBelow_eq] at failed ⊢
  cases made : tree.ensureDirectories path.parent with
  | error other =>
    rw [made] at failed
    exact failed
  | ok below =>
    rw [made] at failed
    exact write_error failed others

/-- An operation that does not fail has a result. -/
theorem result_of_ok {ε α : Type} {ran : Except ε α} (ok : ran.isOk = true) :
    ∃ result, ran = .ok result := by
  cases ran with
  | error error => cases ok
  | ok result => exact ⟨result, rfl⟩

end Concordance.FileWriting
