import Concordance.Proofs.DirectScan

/-!
Whether a document is selected depends on that document alone. Two indexes may hold quite different
documents besides it; as long as they store the same positions for it, every query selects it from both
or from neither. This includes queries with a complement, which is taken in the documents of an index.
-/
namespace Concordance.DocumentLocality
open PostingContent DirectScan

/-- A document has the same entries in two indexes: each term is missing from it in both, or stands in
both at the same positions. -/
def SameEntries (left right : Index) (doc : DocId) : Prop :=
  ∀ term, stored? left.postings term doc = stored? right.postings term doc

variable {left right : Index} {doc : DocId}

/-! ## From the postings to a query -/

private theorem positions_local (same : SameEntries left right doc) (term : Text) :
    left.positionsOf term doc = right.positionsOf term doc := by
  rw [positions_stored, positions_stored, same]

private theorem containing_local (same : SameEntries left right doc) (term : Text) :
    doc ∈ left.documentsContaining term ↔ doc ∈ right.documentsContaining term := by
  rw [mem_documents_containing, mem_documents_containing, same]

private theorem documents_local (same : SameEntries left right doc) :
    doc ∈ left.documents ↔ doc ∈ right.documents := by
  rw [mem_documents, mem_documents]
  exact exists_congr fun term => by rw [same term]

private theorem match_local (same : SameEntries left right doc) (anchor : Int) (words : List Text) :
    Phrase.matchFrom left doc anchor words = Phrase.matchFrom right doc anchor words := by
  induction words generalizing anchor with
  | nil => rfl
  | cons first rest ih =>
    cases rest with
    | nil => rfl
    | cons second rest =>
      have pair : Phrase.bigram left doc first second anchor =
          Phrase.bigram right doc first second anchor := by
        unfold Phrase.bigram
        rw [positions_local same, positions_local same]
      unfold Phrase.matchFrom
      rw [pair]
      split
      · rfl
      · exact ih _

private theorem phrase_local (same : SameEntries left right doc) (phrase : Text) :
    doc ∈ Phrase.documents left phrase ↔ doc ∈ Phrase.documents right phrase := by
  unfold Phrase.documents
  split
  · exact Iff.rfl
  · exact containing_local same _
  · rw [DocSet.mem_filter, DocSet.mem_filter, containing_local same, Phrase.holds, Phrase.holds,
      match_local same]

/-- The documents in which a complement is taken need only agree on the document itself. -/
theorem evaluate_in_local (same : SameEntries left right doc) {all others : DocSet}
    (within : doc ∈ all ↔ doc ∈ others) (query : Query) :
    doc ∈ query.evaluateIn left all ↔ doc ∈ query.evaluateIn right others := by
  induction query with
  | phrase t => exact phrase_local same t
  | node operator first second firstIH secondIH =>
    cases operator <;>
      simp [Query.evaluateIn, Operator.apply, Operator.unionComplement, firstIH, secondIH, within]

/-! ## Other documents -/

/-- The occurrences of other documents leave the entries of a document as they are. -/
private theorem stored_own {table other : Assoc Text Postings} {term : Text}
    (same : stored? table term doc = stored? other term doc) (occurrences : List Occurrence) :
    stored? (occurrences.foldl Occurrence.enter table) term doc =
      stored? ((occurrences.filter fun occurrence => occurrence.doc = doc).foldl Occurrence.enter
        other) term doc := by
  induction occurrences generalizing table other with
  | nil => exact same
  | cons occurrence rest ih =>
    by_cases own : occurrence.doc = doc
    · rw [List.filter_cons_of_pos (by simpa using own), List.foldl_cons, List.foldl_cons]
      apply ih
      rw [stored_enter, stored_enter, same]
    · rw [List.filter_cons_of_neg (by simpa using own), List.foldl_cons]
      apply ih
      rw [stored_enter, if_neg fun here => own here.2.symm, same]

private theorem own_occurrences (documents : List (DocId × Text)) :
    ((documents.flatMap fun (name, t) => Occurrence.ofDocument name t).filter
        fun occurrence => occurrence.doc = doc) =
      (documents.filter fun entry => entry.1 = doc).flatMap fun (name, t) =>
        Occurrence.ofDocument name t := by
  induction documents with
  | nil => rfl
  | cons entry rest ih =>
    obtain ⟨name, t⟩ := entry
    rw [List.flatMap_cons, List.filter_append, ih]
    by_cases own : name = doc
    · have kept : (Occurrence.ofDocument name t).filter (fun occurrence => occurrence.doc = doc) =
          Occurrence.ofDocument name t := by
        simp [Occurrence.ofDocument, own]
      rw [kept, List.filter_cons_of_pos (by simpa using own), List.flatMap_cons]
    · have dropped : (Occurrence.ofDocument name t).filter
          (fun occurrence => occurrence.doc = doc) = [] := by
        simp [Occurrence.ofDocument, own]
      rw [dropped, List.filter_cons_of_neg (by simpa using own), List.nil_append]

/-- Indexes of documents have the same entries for a document that is given alike to both, whatever
else is given to them. -/
theorem entries_of_documents {documents others : List (DocId × Text)}
    (given : (documents.filter fun entry => entry.1 = doc) =
      others.filter fun entry => entry.1 = doc) :
    SameEntries (Index.ofDocuments documents) (Index.ofDocuments others) doc := by
  intro term
  unfold Index.ofDocuments Index.ofOccurrences
  rw [stored_of_postings, stored_of_postings, stored_own rfl, own_occurrences, given,
    ← own_occurrences, ← stored_own rfl]

/-! ## Queries -/

/-- A query selects documents of the index only; indexes with the same entries for a document agree on
whether it is selected; and so adding, removing or changing other documents makes no difference. -/
theorem selection_is_local (query : Query) :
    (∀ (index : Index) (doc : DocId), doc ∈ query.evaluate index → doc ∈ index.documents) ∧
      (∀ (left right : Index) (doc : DocId), SameEntries left right doc →
        (doc ∈ query.evaluate left ↔ doc ∈ query.evaluate right)) ∧
      ∀ (documents others : List (DocId × Text)) (doc : DocId),
        (documents.filter fun entry => entry.1 = doc) = (others.filter fun entry => entry.1 = doc) →
          (doc ∈ query.evaluate (Index.ofDocuments documents) ↔
            doc ∈ query.evaluate (Index.ofDocuments others)) := by
  have agree : ∀ (left right : Index) (doc : DocId), SameEntries left right doc →
      (doc ∈ query.evaluate left ↔ doc ∈ query.evaluate right) := fun left right doc same =>
    evaluate_in_local same (documents_local same) query
  refine ⟨fun index doc => evaluate_in_documents, agree, ?_⟩
  intro documents others doc given
  exact agree _ _ doc (entries_of_documents given)

/-- A complement selects a document from two collections that share nothing else. -/
theorem complement_selects_alike :
    ([("a".toList, "x y".toList), ("b".toList, "y x".toList)].filter
        fun entry => entry.1 = "a".toList) =
      ([("c".toList, "z".toList), ("a".toList, "x y".toList)].filter
        fun entry => entry.1 = "a".toList) ∧
      SameEntries
        (Index.ofDocuments [("a".toList, "x y".toList), ("b".toList, "y x".toList)])
        (Index.ofDocuments [("c".toList, "z".toList), ("a".toList, "x y".toList)]) "a".toList ∧
      "a".toList ∈ (Query.parse "z or not y x".toList).evaluate
        (Index.ofDocuments [("a".toList, "x y".toList), ("b".toList, "y x".toList)]) ∧
      "a".toList ∈ (Query.parse "z or not y x".toList).evaluate
        (Index.ofDocuments [("c".toList, "z".toList), ("a".toList, "x y".toList)]) := by
  have given : ([("a".toList, "x y".toList), ("b".toList, "y x".toList)].filter
        fun entry => entry.1 = "a".toList) =
      ([("c".toList, "z".toList), ("a".toList, "x y".toList)].filter
        fun entry => entry.1 = "a".toList) := by decide
  have same := entries_of_documents given
  have first : "a".toList ∈ (Query.parse "z or not y x".toList).evaluate
      (Index.ofDocuments [("a".toList, "x y".toList), ("b".toList, "y x".toList)]) := by
    decide +kernel
  exact ⟨given, same, first, ((selection_is_local _).2.1 _ _ _ same).mp first⟩

end Concordance.DocumentLocality
