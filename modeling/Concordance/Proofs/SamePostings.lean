import Concordance.Index.Format
import Concordance.Proofs.CodePointOrder
import Concordance.Proofs.PostingContent

/-!
Indexes with the same postings. They have the same terms, for every term the same documents, and for
every such document the same positions; the order in which these came to be there may differ. An index
is written in code point order, so indexes with the same postings are written alike.
-/
namespace Concordance
open PostingContent

/-- Two indexes have the same terms, the same documents for each term, and the same positions. -/
structure SamePostings (left right : Index) : Prop where
  terms : ∀ term, left.contains term = right.contains term
  documents : ∀ term doc,
    doc ∈ left.documentsContaining term ↔ doc ∈ right.documentsContaining term
  positions : ∀ term doc, left.positionsOf term doc = right.positionsOf term doc

namespace SamePostings
open CodePointOrder

variable {left right : Index}

/-- Postings are the same exactly if the same positions are stored for every term and document. -/
theorem iff_stored : SamePostings left right ↔
    ∀ term doc, stored? left.postings term doc = stored? right.postings term doc := by
  constructor
  · intro same term doc
    have listed := same.documents term doc
    have positions := same.positions term doc
    rw [mem_documents_containing, mem_documents_containing] at listed
    rw [positions_stored, positions_stored] at positions
    cases inLeft : stored? left.postings term doc <;>
      cases inRight : stored? right.postings term doc <;> simp_all
  · intro same
    refine ⟨fun term => ?_, fun term doc => ?_, fun term doc => ?_⟩
    · rw [Bool.eq_iff_iff, contains_iff_stored, contains_iff_stored]
      simp only [same term]
    · rw [mem_documents_containing, mem_documents_containing, same]
    · rw [positions_stored, positions_stored, same]

/-- The documents of a term are listed in the same order. -/
private theorem sorted_documents (same : SamePostings left right) (term : Text) :
    Text.sorted (left.postingsOf term).keys = Text.sorted (right.postingsOf term).keys :=
  sorted_of_mem_iff (left.postingsOf term).distinct (right.postingsOf term).distinct
    (same.documents term)

private theorem sorted_terms (same : SamePostings left right) :
    left.sortedTerms = right.sortedTerms := by
  refine sorted_of_mem_iff left.postings.distinct right.postings.distinct fun term => ?_
  have known := same.terms term
  rw [Bool.eq_iff_iff] at known
  exact Assoc.contains_iff_mem_keys.symm.trans (known.trans Assoc.contains_iff_mem_keys)

/-- Indexes with the same postings are written alike. -/
theorem write (same : SamePostings left right) : left.write = right.write := by
  have sameLine : ∀ term, Index.line term (left.postingsOf term) =
      Index.line term (right.postingsOf term) := by
    intro term
    unfold Index.line
    rw [sorted_documents same term]
    have entries := fun doc => same.positions term doc
    unfold Index.positionsOf at entries
    simp only [entries]
  unfold Index.write Index.lines
  rw [sorted_terms same]
  simp only [sameLine]

end SamePostings
end Concordance
