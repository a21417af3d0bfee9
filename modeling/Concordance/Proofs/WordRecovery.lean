import Mathlib.Data.List.Nodup
import Mathlib.Data.List.Perm.Subperm
import Concordance.Proofs.DirectScan

/-!
An index of documents loses nothing of them but blanks and capitals, and adds nothing. Every position of
every document is stored for one term, the word that stands there, so the words of a document can be read
off the index again, whatever the order in which their occurrences came into it.
-/
namespace Concordance.WordRecovery
open PostingContent DirectScan

/-! ## Reading a document off an index -/

/-- The term that stands at a position of a document. -/
def wordAt? (index : Index) (doc : DocId) (position : Int) : Option Text :=
  index.terms.find? fun term => decide (position ∈ index.positionsOf term doc)

/-- All positions that are stored for a document. -/
def positions (index : Index) (doc : DocId) : List Int :=
  index.terms.flatMap fun term => index.positionsOf term doc

/-- The words of a document in order; there are no more of them than stored positions. -/
def recovered (index : Index) (doc : DocId) : List Text :=
  (List.range (positions index doc).length).filterMap fun k : Nat =>
    wordAt? index doc k

variable {index : Index} {doc : DocId} {term : Text} {tokens : List Text}

private theorem term_of_position {position : Int} (member : position ∈ index.positionsOf term doc) :
    term ∈ index.terms := mem_terms.mpr ⟨doc, containing_of_position member⟩

/-- Where an index spells words, the term at a place is the word at that place. -/
theorem word_at_spelled (spells : Spells index doc tokens) (k : Nat) :
    wordAt? index doc k = tokens[k]? := by
  have stands : ∀ term, (k : Int) ∈ index.positionsOf term doc ↔ tokens[k]? = some term := by
    intro term
    rw [spells]
    constructor
    · rintro ⟨other, same, found⟩
      rwa [Int.ofNat.inj same]
    · exact fun found => ⟨k, rfl, found⟩
  unfold wordAt?
  cases found : tokens[k]? with
  | none =>
    rw [List.find?_eq_none]
    intro term _ here
    rw [decide_eq_true_eq, stands, found] at here
    cases here
  | some word =>
    have here := (stands word).mpr found
    cases looked : index.terms.find? fun term => decide ((k : Int) ∈ index.positionsOf term doc) with
    | none =>
      have missed := List.find?_eq_none.mp looked word (term_of_position here)
      exact absurd (decide_eq_true here) missed
    | some term =>
      have there : (k : Int) ∈ index.positionsOf term doc := by simpa using List.find?_some looked
      rw [stands, found] at there
      exact there.symm

/-- There are at least as many stored positions as words. -/
private theorem length_spelled (spells : Spells index doc tokens) :
    tokens.length ≤ (positions index doc).length := by
  have distinct : ((List.range tokens.length).map Int.ofNat).Nodup :=
    List.nodup_range.map fun _ _ => Int.ofNat.inj
  have stored : (List.range tokens.length).map Int.ofNat ⊆ positions index doc := by
    intro position member
    obtain ⟨k, listed, rfl⟩ := List.mem_map.mp member
    have inside : k < tokens.length := List.mem_range.mp listed
    have here : (k : Int) ∈ index.positionsOf tokens[k] doc :=
      (spells _ _).mpr ⟨k, rfl, List.getElem?_eq_getElem inside⟩
    exact List.mem_flatMap.mpr ⟨_, term_of_position here, here⟩
  have length := (List.subperm_of_subset distinct stored).length_le
  rwa [List.length_map, List.length_range] at length

private theorem filter_map_get (tokens : List Text) {n : Nat} (enough : tokens.length ≤ n) :
    (List.range n).filterMap (fun k => tokens[k]?) = tokens := by
  induction tokens generalizing n with
  | nil => simp
  | cons word rest ih =>
    obtain ⟨m, rfl⟩ : ∃ m, n = m + 1 := ⟨n - 1, by simp only [List.length_cons] at enough; omega⟩
    simp only [List.range_succ_eq_map, List.filterMap_cons, List.getElem?_cons_zero,
      List.filterMap_map]
    exact congrArg (word :: ·) (ih (Nat.le_of_succ_le_succ enough))

/-- Where an index spells words, they are recovered. -/
theorem recovered_spelled (spells : Spells index doc tokens) : recovered index doc = tokens := by
  unfold recovered
  simp only [word_at_spelled spells]
  exact filter_map_get tokens (length_spelled spells)

/-! ## Occurrences in any order -/

variable {documents : List (DocId × Text)} {occurrences : List Occurrence}

private theorem positions_entered
    (entered : occurrences.Perm (documents.flatMap fun (doc, t) => Occurrence.ofDocument doc t))
    {position : Int} :
    position ∈ (Index.ofOccurrences occurrences).positionsOf term doc ↔
      position ∈ (Index.ofDocuments documents).positionsOf term doc := by
  rw [Index.ofDocuments, mem_positions_of_occurrences, mem_positions_of_occurrences,
    entered.mem_iff]

/-- The documents of an index of occurrences are those with a position of some term. -/
private theorem mem_documents_iff_position :
    doc ∈ (Index.ofOccurrences occurrences).documents ↔
      ∃ term position, position ∈ (Index.ofOccurrences occurrences).positionsOf term doc := by
  simp only [mem_documents, ← mem_documents_containing,
    containing_iff_position (of_occurrences_ordered occurrences)]

/-- The terms of an index of occurrences are those with a position in some document. -/
private theorem mem_terms_iff_position :
    term ∈ (Index.ofOccurrences occurrences).terms ↔
      ∃ doc position, position ∈ (Index.ofOccurrences occurrences).positionsOf term doc := by
  simp only [mem_terms, containing_iff_position (of_occurrences_ordered occurrences)]

/-- An index of documents, whose occurrences may come in any order, stores at each place of a document
the word that stands there and nothing else, so that the document's words are recovered; it has exactly
the documents with words, and exactly the words of the documents as its terms. -/
theorem index_keeps_every_word (documents : List (DocId × Text))
    (distinct : (documents.map Prod.fst).Nodup) (occurrences : List Occurrence)
    (entered : occurrences.Perm (documents.flatMap fun (doc, t) => Occurrence.ofDocument doc t)) :
    (∀ doc t, (doc, t) ∈ documents →
      (∀ term position, position ∈ (Index.ofOccurrences occurrences).positionsOf term doc ↔
        0 ≤ position ∧ (Analysis.analyze t)[position.toNat]? = some term) ∧
      recovered (Index.ofOccurrences occurrences) doc = Analysis.analyze t) ∧
    (∀ doc, doc ∈ (Index.ofOccurrences occurrences).documents ↔
      ∃ t, (doc, t) ∈ documents ∧ Analysis.analyze t ≠ []) ∧
    ∀ term, term ∈ (Index.ofOccurrences occurrences).terms ↔
      ∃ doc t, (doc, t) ∈ documents ∧ term ∈ Analysis.analyze t := by
  refine ⟨fun doc t given => ?_, fun doc => ?_, fun term => ?_⟩
  · have spells : Spells (Index.ofOccurrences occurrences) doc (Analysis.analyze t) := by
      intro term position
      rw [positions_entered entered, documents_spelled distinct given]
    refine ⟨fun term position => ?_, recovered_spelled spells⟩
    rw [spells]
    constructor
    · rintro ⟨k, rfl, found⟩
      exact ⟨Int.natCast_nonneg k, found⟩
    · rintro ⟨nonneg, found⟩
      exact ⟨position.toNat, (Int.toNat_of_nonneg nonneg).symm, found⟩
  · rw [← mem_documents_of_documents, Index.ofDocuments, mem_documents_iff_position,
      mem_documents_iff_position]
    exact exists_congr fun term => exists_congr fun position => positions_entered entered
  · simp only [mem_terms_iff_position, positions_entered entered, mem_positions_of_documents]
    constructor
    · rintro ⟨doc, position, t, given, k, _, found⟩
      exact ⟨doc, t, given, List.mem_of_getElem? found⟩
    · rintro ⟨doc, t, given, member⟩
      obtain ⟨k, found⟩ := List.mem_iff_getElem?.mp member
      exact ⟨doc, k, t, given, k, rfl, found⟩

/-- Occurrences that come backwards give the words in their order, a repeated word included. -/
theorem backward_occurrences_recovered :
    ([("a".toList, "X y x".toList), ("b".toList, " ".toList), ("c".toList, "y".toList)].map
        Prod.fst).Nodup ∧
      ([("a".toList, "X y x".toList), ("b".toList, " ".toList), ("c".toList, "y".toList)].flatMap
        fun (doc, t) => Occurrence.ofDocument doc t).reverse.Perm
        ([("a".toList, "X y x".toList), ("b".toList, " ".toList), ("c".toList, "y".toList)].flatMap
          fun (doc, t) => Occurrence.ofDocument doc t) ∧
      recovered (Index.ofOccurrences
        ([("a".toList, "X y x".toList), ("b".toList, " ".toList), ("c".toList, "y".toList)].flatMap
          fun (doc, t) => Occurrence.ofDocument doc t).reverse) "a".toList =
        ["x".toList, "y".toList, "x".toList] := by
  have distinct : ([("a".toList, "X y x".toList), ("b".toList, " ".toList),
      ("c".toList, "y".toList)].map Prod.fst).Nodup := by decide
  have entered := List.reverse_perm
    ([("a".toList, "X y x".toList), ("b".toList, " ".toList), ("c".toList, "y".toList)].flatMap
      fun (doc, t) => Occurrence.ofDocument doc t)
  have kept := (index_keeps_every_word _ distinct _ entered).1 "a".toList "X y x".toList (by simp)
  exact ⟨distinct, entered, kept.2.trans (by decide +kernel)⟩

end Concordance.WordRecovery
