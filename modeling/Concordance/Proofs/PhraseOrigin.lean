import Concordance.Proofs.DirectScan
import Concordance.Proofs.FileBuilding

/-!
Where a phrase comes from that a build selects. A document is named for its file, and files of one name are
one document: its words are those of all of them together. So each word of a selected phrase stands at its
place in some file of that name. It takes files of one name that differ for the words to come from more than
one of them.
-/
namespace Concordance.PhraseOrigin

open DirectScan FileBuilding PhraseScan PostingContent

variable {tree : FileTree} {paths : List Path} {doc : DocId}

/-- A file of a name has a word at a place. -/
def WordAt (tree : FileTree) (paths : List Path) (doc : DocId) (place : Nat) (word : Text) : Prop :=
  ∃ path ∈ paths, ∃ t, document? tree path = some (doc, t) ∧
    (Analysis.analyze t)[place]? = some word

/-- One file of a name has words in a row. -/
def InOneFile (tree : FileTree) (paths : List Path) (doc : DocId) (words : List Text) : Prop :=
  ∃ path ∈ paths, ∃ t, document? tree path = some (doc, t) ∧
    ∃ start, RowAt (Analysis.analyze t) start words

/-- All files of a name have the same text. -/
def Agree (tree : FileTree) (paths : List Path) (doc : DocId) : Prop :=
  ∀ path ∈ paths, ∀ other ∈ paths, ∀ t u, document? tree path = some (doc, t) →
    document? tree other = some (doc, u) → t = u

/-- The positions in a build are the places in the files. -/
theorem position_iff_place {word : Text} {position : Int} :
    position ∈ (Build.ofFiles tree paths).index.positionsOf word doc ↔
      ∃ place : Nat, position = place ∧ WordAt tree paths doc place word := by
  rw [Build.index, mem_positions_of_documents, documents_of_files]
  simp only [List.mem_filterMap, WordAt]
  constructor
  · rintro ⟨t, ⟨path, member, read⟩, place, same, found⟩
    exact ⟨place, same, path, member, t, read, found⟩
  · rintro ⟨place, same, path, member, t, read, found⟩
    exact ⟨t, ⟨path, member, read⟩, place, same, found⟩

private theorem files_placed (tree : FileTree) (paths : List Path) (doc : DocId) :
    Placed (Build.ofFiles tree paths).index doc where
  ascending := fun term => positions_ascending (documents_ordered _) term doc
  nonneg := fun term position member => by
    obtain ⟨place, rfl, _⟩ := position_iff_place.mp member
    exact Int.natCast_nonneg place

/-- The words of a selected phrase stand one after another among the files of the document's name. -/
theorem words_of_selected {phrase : Text} (several : 2 ≤ (Text.words phrase).length)
    (selected : doc ∈ Phrase.documents (Build.ofFiles tree paths).index phrase) :
    ∃ start, ∀ (k : Nat) word, (Text.words phrase)[k]? = some word →
      WordAt tree paths doc (start + k) word := by
  rw [mem_documents_of_phrase (files_placed tree paths doc)] at selected
  match words : Text.words phrase with
  | [] => simp [words] at several
  | [_] => simp [words] at several
  | first :: second :: rest =>
    rw [words] at selected
    obtain ⟨start, _, row⟩ := selected
    have here := row 0 first rfl
    obtain ⟨place, same, _⟩ := position_iff_place.mp here
    refine ⟨place, fun k word found => ?_⟩
    obtain ⟨next, at_next, stands⟩ := position_iff_place.mp (row k word found)
    have : next = place + k := by omega
    exact this ▸ stands

/-- Where the files of a name agree, they are as good as one. -/
theorem one_file_of_words {words : List Text} {start : Nat} (agree : Agree tree paths doc)
    (nonempty : words ≠ [])
    (stand : ∀ (k : Nat) word, words[k]? = some word → WordAt tree paths doc (start + k) word) :
    InOneFile tree paths doc words := by
  obtain ⟨first, rest, rfl⟩ := List.exists_cons_of_ne_nil nonempty
  obtain ⟨path, member, t, read, _⟩ := stand 0 first rfl
  refine ⟨path, member, t, read, start, fun k word found => ?_⟩
  obtain ⟨other, alsoMember, u, alsoRead, place⟩ := stand k word found
  rwa [agree path member other alsoMember t u read alsoRead]

/-- A build of readable files selects a phrase of several words only where each of the words stands at its
place in a file of the document's name; and if the files of that name agree, one of them has all the words
in a row. -/
theorem selected_phrase_stands_in_files (tree : FileTree) (paths : List Path) (workers : Int)
    (staffed : 1 ≤ workers) (readable : ∀ path ∈ paths, ∃ octets, tree.read path = .ok octets) :
    ∃ build, (Build.attempt tree workers paths).2 = .ok build ∧
      ∀ phrase doc, 2 ≤ (Text.words phrase).length → doc ∈ Phrase.documents build.index phrase →
        (∃ start, ∀ (k : Nat) word, (Text.words phrase)[k]? = some word →
          WordAt tree paths doc (start + k) word) ∧
        (Agree tree paths doc → InOneFile tree paths doc (Text.words phrase)) := by
  refine ⟨_, (attempt_readable staffed readable).1, fun phrase doc several selected => ?_⟩
  obtain ⟨start, stand⟩ := words_of_selected several selected
  refine ⟨⟨start, stand⟩, fun agree => one_file_of_words agree ?_ stand⟩
  rintro none
  simp [none] at several

/-- Two files of one name in two directories. -/
def namesakes (first second : List UInt8) : FileTree :=
  (((FileTree.empty.set [['a']] .directory).set [['b']] .directory).set [['a'], ['d']]
    (.file first)).set [['b'], ['d']] (.file second)

def namesakePaths : List Path := [.ofText "a/d".toList, .ofText "b/d".toList]

private theorem namesakes_readable (first second : List UInt8) :
    ∀ path ∈ namesakePaths, ∃ octets, (namesakes first second).read path = .ok octets := by
  intro path member
  simp only [namesakePaths, List.mem_cons, List.not_mem_nil, or_false] at member
  rcases member with rfl | rfl
  · exact ⟨_, rfl⟩
  · exact ⟨_, rfl⟩

/-- Two files of one name that hold the same phrase are one document, and either file has the phrase. -/
theorem phrase_of_equal_files :
    (∀ path ∈ namesakePaths, ∃ octets, (namesakes [120, 32, 121] [120, 32, 121]).read path =
      .ok octets) ∧
    ∃ build, (Build.attempt (namesakes [120, 32, 121] [120, 32, 121]) 1 namesakePaths).2 =
        .ok build ∧
      ['d'] ∈ Phrase.documents build.index "x y".toList ∧
      InOneFile (namesakes [120, 32, 121] [120, 32, 121]) namesakePaths ['d']
        (Text.words "x y".toList) := by
  have readable := namesakes_readable [120, 32, 121] [120, 32, 121]
  obtain ⟨build, built, origin⟩ := selected_phrase_stands_in_files _ _ 1 (by decide) readable
  have same : build = Build.ofFiles (namesakes [120, 32, 121] [120, 32, 121]) namesakePaths :=
    (Except.ok.inj built).symm
  have selected : ['d'] ∈ Phrase.documents build.index "x y".toList := by
    rw [same]
    decide +kernel
  refine ⟨readable, build, built, selected, ?_⟩
  refine (origin "x y".toList ['d'] (by decide +kernel) selected).2 ?_
  intro path member other alsoMember t u read alsoRead
  have text : ∀ path ∈ namesakePaths, document? (namesakes [120, 32, 121] [120, 32, 121]) path =
      some (['d'], "x y".toList) := by decide +kernel
  rw [text path member] at read
  rw [text other alsoMember] at alsoRead
  cases read
  cases alsoRead
  rfl

/-- Of two files of one name one begins with the first word of a phrase, and the other one has the last word in
the second place. The build selects their document, though neither file has the phrase. -/
theorem phrase_of_two_files :
    (∀ path ∈ namesakePaths, ∃ octets, (namesakes [120] [122, 32, 121]).read path = .ok octets) ∧
    (∃ build, (Build.attempt (namesakes [120] [122, 32, 121]) 1 namesakePaths).2 = .ok build ∧
      ['d'] ∈ Phrase.documents build.index "x y".toList) ∧
    ¬ InOneFile (namesakes [120] [122, 32, 121]) namesakePaths ['d'] (Text.words "x y".toList) := by
  refine ⟨namesakes_readable _ _, ⟨_, rfl, by decide +kernel⟩, ?_⟩
  rintro ⟨path, member, t, read, start, row⟩
  have first := row 0 ['x'] (by decide +kernel)
  have second := row 1 ['y'] (by decide +kernel)
  have documents : namesakePaths.map (document? (namesakes [120] [122, 32, 121])) =
      [some (['d'], ['x']), some (['d'], "z y".toList)] := by decide +kernel
  have words : Analysis.analyze ['x'] = [['x']] ∧ Analysis.analyze "z y".toList = [['z'], ['y']] := by
    decide +kernel
  have known := List.mem_map_of_mem (f := document? (namesakes [120] [122, 32, 121])) member
  rw [documents, read] at known
  simp only [List.mem_cons, Option.some.injEq, Prod.mk.injEq, true_and, List.not_mem_nil,
    or_false] at known
  rcases known with rfl | rfl
  · rw [words.1] at second
    simp at second
  · rw [words.2] at first
    exact absurd (List.mem_of_getElem? first) (by decide)

end Concordance.PhraseOrigin
