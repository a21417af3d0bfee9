import Mathlib.Data.List.Perm.Subperm
import Concordance.Proofs.EntryForm
import Concordance.Proofs.IndexReading
import Concordance.Ranking.Weight

/-!
What can be relied on of an index. Whether it was read from lines or collected from the words of
documents, its positions are in order and none is negative; and however it came about, its terms and its
documents are those that its postings show, so that each term counts at least one document and at most
all of them.
-/
namespace Concordance.IndexInvariant
open PostingContent IndexReading EntryForm

/-! ## Stored positions -/

/-- Lines may hold numbers in any order, repeated or negative; what is stored of them is canonical. -/
theorem of_lines_canonical (lines : List Text) :
    AllStored Canonical (Index.ofLines lines).postings := by
  intro term doc positions held
  obtain ⟨line, _, onLine⟩ := line_of_stored held
  obtain ⟨_, _, _, segment, _, read⟩ := mem_entries_of onLine
  obtain ⟨_, _, canonical, _⟩ := read_sound read
  exact canonical

/-- Occurrences come from documents if each of them is one in some document, in whatever order they
stand and however often. -/
def ComeFrom (documents : List (DocId × Text)) (occurrences : List Occurrence) : Prop :=
  ∀ occurrence ∈ occurrences, ∃ document ∈ documents,
    occurrence ∈ Occurrence.ofDocument document.1 document.2

theorem of_occurrences_canonical {documents : List (DocId × Text)} {occurrences : List Occurrence}
    (origin : ComeFrom documents occurrences) :
    AllStored Canonical (Index.ofOccurrences occurrences).postings := by
  intro term doc positions held
  refine ⟨of_occurrences_ordered occurrences term doc positions held, ?_⟩
  intro position member
  have stored : position ∈ (Index.ofOccurrences occurrences).positionsOf term doc := by
    rw [positions_stored, held]
    exact member
  have entered := (mem_positions_of_occurrences occurrences).mp stored
  obtain ⟨document, _, occurs⟩ := origin _ entered
  obtain ⟨-, k, rfl, -⟩ := mem_of_document.mp occurs
  exact Int.natCast_nonneg k

/-! ## Terms, documents and counts -/

/-- Terms and documents are those that the postings show, and the statistics of terms count them. -/
structure Coherent (index : Index) : Prop where
  terms : ∀ term, term ∈ index.terms ↔ (index.documentsContaining term).members ≠ []
  documents : ∀ doc, doc ∈ index.documents ↔
    ∃ term ∈ index.terms, doc ∈ index.documentsContaining term
  /-- Every term has statistics, and nothing else has. -/
  described : (TermStatistics.ofIndex index).keys = index.terms
  counted : ∀ term statistics, (TermStatistics.ofIndex index).get? term = some statistics →
    statistics.documentFrequency = (index.documentsContaining term).size ∧
      1 ≤ statistics.documentFrequency ∧ statistics.documentFrequency ≤ index.documentCount

variable {index : Index} {term : Text} {doc : DocId}

/-- A set within another one is not larger. -/
private theorem size_le_of_subset {small large : DocSet} (subset : ∀ doc ∈ small, doc ∈ large) :
    small.size ≤ large.size :=
  (List.subperm_of_subset small.distinct subset).length_le

/-- A term has statistics if it has postings, and these count its documents. -/
private theorem frequency_of_term {statistics : TermStatistics}
    (found : (TermStatistics.ofIndex index).get? term = some statistics) :
    term ∈ index.terms ∧
      statistics.documentFrequency = (index.documentsContaining term).size := by
  unfold TermStatistics.ofIndex at found
  rw [Assoc.get?_mapValues] at found
  obtain ⟨docs, held, rfl⟩ := Option.map_eq_some_iff.mp found
  constructor
  · exact Assoc.contains_iff_mem_keys.mp (by rw [Assoc.contains, held]; rfl)
  · have listed : index.postingsOf term = docs := by rw [Index.postingsOf, held]; rfl
    rw [Index.documentsContaining, listed]
    exact (List.length_map Prod.fst).symm

theorem index_coherent (index : Index) : Coherent index where
  terms := by
    intro term
    rw [mem_terms]
    constructor
    · rintro ⟨doc, listed⟩
      exact List.ne_nil_of_mem listed
    · exact List.exists_mem_of_ne_nil _
  documents := by
    intro doc
    constructor
    · intro member
      obtain ⟨term, present⟩ := mem_documents.mp member
      have listed := mem_documents_containing.mpr present
      exact ⟨term, mem_terms.mpr ⟨doc, listed⟩, listed⟩
    · rintro ⟨term, _, listed⟩
      exact documents_of_term listed
  described := Assoc.keys_mapValues _ _
  counted := by
    intro term statistics found
    obtain ⟨known, frequency⟩ := frequency_of_term found
    obtain ⟨doc, listed⟩ := mem_terms.mp known
    refine ⟨frequency, ?_, ?_⟩
    · rw [frequency]
      exact List.length_pos_of_mem listed
    · rw [frequency]
      exact size_le_of_subset fun doc => documents_of_term

/-- Positions that were read from lines or collected from documents are some, strictly ascending and not
negative. Every index is coherent; and the one that is made of a table keeps all that the table holds. -/
theorem index_invariants :
    (∀ lines, AllStored Canonical (Index.ofLines lines).postings) ∧
      (∀ documents occurrences, ComeFrom documents occurrences →
        AllStored Canonical (Index.ofOccurrences occurrences).postings) ∧
      (∀ index, Coherent index) ∧
      ∀ table term doc,
        stored? (Index.ofPostings table).postings term doc = stored? table term doc := by
  refine ⟨of_lines_canonical, ?_, index_coherent, stored_of_postings⟩
  intro documents occurrences origin
  exact of_occurrences_canonical origin

/-- Numbers in disorder, a negative one, and a term that has no entries left. -/
def disorderly : List Text :=
  ["a\tx: 3,1,3;y: 4,-1\n".toList, "b\tx: -1\n".toList, "c\ty: 0".toList]

/-- The occurrences of the words of two documents, the last one first. -/
def backwards : List Occurrence :=
  (Occurrence.ofDocument ['x'] "a b a".toList ++ Occurrence.ofDocument ['y'] "b".toList).reverse

/-- Disorder in lines and in occurrences does not reach the index. -/
theorem disorder_not_stored :
    (Index.ofLines disorderly).positionsOf ['a'] ['x'] = [1, 3] ∧ Canonical [1, 3] ∧
      (Index.ofOccurrences backwards).positionsOf ['a'] ['x'] = [0, 2] ∧ Canonical [0, 2] ∧
      ['b'] ∉ (Index.ofLines disorderly).terms ∧ (Index.ofLines disorderly).documentCount = 2 := by
  obtain ⟨lines, occurrences, coherent, -⟩ := index_invariants
  have origin : ComeFrom [(['x'], "a b a".toList), (['y'], "b".toList)] backwards := by
    unfold ComeFrom
    decide +kernel
  refine ⟨by decide +kernel, ?_, by decide +kernel, ?_, ?_, by decide +kernel⟩
  · exact lines disorderly ['a'] ['x'] _ (by decide +kernel)
  · exact occurrences _ backwards origin ['a'] ['x'] _ (by decide +kernel)
  · rw [(coherent (Index.ofLines disorderly)).terms]
    decide +kernel

end Concordance.IndexInvariant
