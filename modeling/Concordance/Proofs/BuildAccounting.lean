import Mathlib.Data.List.Forall2
import Concordance.Proofs.FileBuilding
import Concordance.Proofs.LineCuts
import Concordance.Proofs.WordCase

/-!
What a build makes of files that cannot be read. Reading goes on after each of them: the index is that of the
files that can be read, and every other file is reported once, in its place. So the files that were read and
the reports together are as many as the files that were asked for. A file that can be read counts with the
text that its octets spell, under the last name of its path.
-/
namespace Concordance.BuildAccounting

open FileBuilding FileWriting PostingContent

variable {tree : FileTree} {path : Path} {paths : List Path} {error : FileError}

def isReadable (tree : FileTree) (path : Path) : Bool := (tree.read path).isOk

/-- The occurrences of the words of a file; none if it cannot be read. The document has the last name of the
path, and its text is what the octets spell in UTF-8, with a replacement for those that spell nothing. -/
def occurrencesIn (tree : FileTree) (path : Path) : List Occurrence :=
  match tree.read path with
  | .ok octets => Occurrence.ofDocument (path.parts.getLastD []) (Utf8.decodeReplacing octets)
  | .error _ => []

/-- An entry reports why the file system does not give the file at a path. -/
def Reports (tree : FileTree) (path : Path) (entry : Text) : Prop :=
  ∃ error, tree.read path = .error error ∧ error.cause ≠ .emptyByte ∧
    entry = path.text ++ ": ".toList ++ error.message

/-! ## One file -/

private theorem enter_refused {place : Place} {name : Text} :
    tree.enter place name ≠ .error .emptyByte := by
  unfold FileTree.enter
  split
  · exact nofun
  · exact nofun
  · repeat' split
    all_goals exact nofun

private theorem walk_refused {place : Place} {names : List Text} :
    tree.walk place names ≠ .error .emptyByte := by
  induction names generalizing place with
  | nil => exact nofun
  | cons name names ih =>
    unfold FileTree.walk
    cases entered : tree.enter place name with
    | error cause =>
      rintro same
      cases same
      exact enter_refused entered
    | ok next => exact ih

/-- Only a path that holds an empty byte is refused before the file system is asked. -/
theorem locate_refused (real : Build.isPath path = true) : tree.locate path ≠ .error .emptyByte := by
  have accepted : FileTree.checkPath path ≠ .error .emptyByte := by
    unfold FileTree.checkPath
    rw [if_neg (by simpa [Build.isPath] using real)]
    split <;> simp
  unfold FileTree.locate
  cases checked : FileTree.checkPath path with
  | error cause =>
    rintro same
    cases same
    exact accepted checked
  | ok _ =>
    cases walked : tree.walk (FileTree.start path) path.parts with
    | error cause =>
      rintro same
      cases same
      exact walk_refused walked
    | ok place =>
      rintro same
      cases same

/-- A file that cannot be read is named by the error, which is one of the file system. -/
theorem read_error (real : Build.isPath path = true) (failed : tree.read path = .error error) :
    error.path = path ∧ error.cause ≠ .emptyByte := by
  unfold FileTree.read at failed
  split at failed
  · cases failed
  · cases failed
    exact ⟨rfl, nofun⟩
  · cases failed
    exact ⟨rfl, nofun⟩
  · rename_i cause located
    cases failed
    refine ⟨rfl, ?_⟩
    rintro rfl
    exact locate_refused real located

/-- How lines end makes no difference to the occurrences of words. -/
theorem occurrences_unify (doc : DocId) (t : Text) :
    Occurrence.ofDocument doc (Text.unifyNewlines t) = Occurrence.ofDocument doc t := by
  rw [of_document_words, of_document_words, WordCase.analyze_words, WordCase.analyze_words,
    LineCuts.words_unify]

/-! ## All files -/

/-- The documents of a build and those of its files hold the same words in the same order. -/
private theorem occurrences_of_files (tree : FileTree) (paths : List Path) :
    (paths.filterMap (document? tree)).flatMap (fun (doc, t) => Occurrence.ofDocument doc t) =
      (paths.filter (isReadable tree)).flatMap (occurrencesIn tree) := by
  induction paths with
  | nil => rfl
  | cons path rest ih =>
    cases read : tree.read path with
    | ok octets =>
      have readable : isReadable tree path = true := by rw [isReadable, read]; rfl
      have here : document? tree path = some (path.name, Build.textOf octets) := by
        rw [document?, read]
      have words : occurrencesIn tree path =
          Occurrence.ofDocument path.name (Build.textOf octets) := by
        rw [Build.textOf, occurrences_unify, occurrencesIn, read, Path.name]
      rw [List.filterMap_cons_some here, List.filter_cons_of_pos readable, List.flatMap_cons,
        List.flatMap_cons, ih, words]
    | error error =>
      have unreadable : ¬ isReadable tree path = true := by rw [isReadable, read]; exact nofun
      have none : document? tree path = none := by rw [document?, read]
      rw [List.filterMap_cons_none none, List.filter_cons_of_neg unreadable, ih]

private theorem documents_count (tree : FileTree) (paths : List Path) :
    (paths.filterMap (document? tree)).length = (paths.filter (isReadable tree)).length := by
  rw [List.length_filterMap_eq_countP, ← List.countP_eq_length_filter]
  apply List.countP_congr
  intro path _
  unfold document? isReadable
  cases tree.read path <;> rfl

/-- Every file that cannot be read is reported in its place, and no other file. -/
private theorem reports_of_files (real : ∀ path ∈ paths, Build.isPath path = true) :
    List.Forall₂ (Reports tree) (paths.filter fun path => !isReadable tree path)
      ((paths.filterMap (failure? tree)).map Build.report) := by
  induction paths with
  | nil => exact .nil
  | cons path rest ih =>
    obtain ⟨realHere, realRest⟩ := List.forall_mem_cons.mp real
    cases read : tree.read path with
    | ok octets =>
      have readable : ¬ (!isReadable tree path) = true := by rw [isReadable, read]; exact nofun
      have none : failure? tree path = none := by rw [failure?, read]
      rw [List.filter_cons_of_neg (p := fun path => !isReadable tree path) readable,
        List.filterMap_cons_none none]
      exact ih realRest
    | error error =>
      have unreadable : (!isReadable tree path) = true := by rw [isReadable, read]; rfl
      have here : failure? tree path = some error := by rw [failure?, read]
      obtain ⟨named, ofSystem⟩ := read_error realHere read
      rw [List.filter_cons_of_pos (p := fun path => !isReadable tree path) unreadable,
        List.filterMap_cons_some here, List.map_cons]
      refine .cons ⟨error, read, ofSystem, ?_⟩ (ih realRest)
      rw [Build.report, named]

/-- With a worker, a build of files goes through whichever of them can be read. Its index holds the words of
those that can, in the order of the files, each under the last name of its path and as its octets spell them;
the others are reported one by one with their paths, in the same order; and every file is counted once. -/
theorem unreadable_files_left_out (tree : FileTree) (paths : List Path) (workers : Int)
    (staffed : 1 ≤ workers) (real : ∀ path ∈ paths, Build.isPath path = true) :
    ∃ build, (Build.attempt tree workers paths).2 = .ok build ∧
      build.index =
        Index.ofOccurrences ((paths.filter (isReadable tree)).flatMap (occurrencesIn tree)) ∧
      build.documents.length = (paths.filter (isReadable tree)).length ∧
      List.Forall₂ (Reports tree) (paths.filter fun path => !isReadable tree path)
        (build.errors.map Build.report) ∧
      build.documents.length + build.errors.length = paths.length := by
  have documents := documents_of_files tree paths
  have errors := errors_of_files tree paths
  have count : (Build.ofFiles tree paths).documents.length =
      (paths.filter (isReadable tree)).length := by rw [documents, documents_count]
  have reports : List.Forall₂ (Reports tree) (paths.filter fun path => !isReadable tree path)
      ((Build.ofFiles tree paths).errors.map Build.report) := by
    rw [errors]
    exact reports_of_files real
  refine ⟨_, attempt_of_paths staffed real, ?_, count, reports, ?_⟩
  · rw [Build.index, Index.ofDocuments, documents, occurrences_of_files]
  · have each := reports.length_eq
    rw [List.length_map] at each
    rw [count, ← each, ← List.length_eq_length_filter_add (isReadable tree)]

/-- A file below a directory. It holds an accented letter, a line end of two characters, and an octet that
spells nothing. -/
def folderAndFile : FileTree :=
  (FileTree.empty.set [['d']] .directory).set [['d'], ['é', '.', 't']]
    (.file [0xC3, 0xA9, 0x0D, 0x0A, 0x78, 0xFF])

/-- A path that leads nowhere, the file, the directory, and the file again. -/
def mixedPaths : List Path := ["c", "d/é.t", "d", "./d//é.t"].map fun name => .ofText name.toList

/-- A missing file and a directory among the paths, and a file that is given twice. The file is indexed under
its own name, with the words that its octets spell. -/
theorem file_read_twice : (∀ path ∈ mixedPaths, Build.isPath path = true) ∧
    ∃ build, (Build.attempt folderAndFile 1 mixedPaths).2 = .ok build ∧
      build.documents.length = 2 ∧ build.index.documents.members = ["é.t".toList] ∧
      build.index.positionsOf ['é'] "é.t".toList = [0] ∧
      build.index.positionsOf ['x', '\uFFFD'] "é.t".toList = [1] ∧
      List.Forall₂ (Reports folderAndFile) [.ofText ['c'], .ofText ['d']]
        (build.errors.map Build.report) ∧
      build.documents.length + build.errors.length = 4 := by
  have real : ∀ path ∈ mixedPaths, Build.isPath path = true := by decide +kernel
  obtain ⟨build, built, index, documents, reports, whole⟩ :=
    unreadable_files_left_out folderAndFile mixedPaths 1 (by decide) real
  refine ⟨real, build, built, ?_, ?_, ?_, ?_, ?_, whole⟩
  · rw [documents]
    decide +kernel
  · rw [index]
    decide +kernel
  · rw [index]
    decide +kernel
  · rw [index]
    decide +kernel
  · have lost : mixedPaths.filter (fun path => !isReadable folderAndFile path) =
        [.ofText ['c'], .ofText ['d']] := by decide +kernel
    rwa [lost] at reports

end Concordance.BuildAccounting
