import Concordance.Index.Occurrence

/-!
What an index holds, read through one view: the positions stored for a term in a document. Every
question to an index is a question about this view, and an index built from documents stores for each
term exactly the places at which the document's words have it.
-/
namespace Concordance.PostingContent

/-- The positions stored for a term in a document, if the document has the term. -/
def stored? (table : Assoc Text Postings) (term : Text) (doc : DocId) : Option (List Int) :=
  (table.get? term).bind fun docs => docs.get? doc

/-- Every stored list of positions satisfies a predicate. -/
def AllStored (holds : List Int → Prop) (table : Assoc Text Postings) : Prop :=
  ∀ term doc positions, stored? table term doc = some positions → holds positions

/-- A list of positions as every builder leaves it: not empty, and strictly ascending. -/
structure Ordered (positions : List Int) : Prop where
  nonempty : positions ≠ []
  ascending : positions.Pairwise (· < ·)

variable {table : Assoc Text Postings} {term : Text} {doc : DocId} {index : Index}

/-! ## Questions to an index -/

/-- Leaving out the terms without documents takes nothing away. -/
theorem stored_of_postings (table : Assoc Text Postings) (term : Text) (doc : DocId) :
    stored? (Index.ofPostings table).postings term doc = stored? table term doc := by
  unfold stored? Index.ofPostings
  rw [Assoc.get?_filterValues]
  cases table.get? term with
  | none => rfl
  | some docs =>
    rw [Option.filter_some]
    by_cases empty : docs.entries = []
    · simp [empty, Assoc.get?, Assoc.find?]
    · simp [empty]

theorem postings_get (index : Index) (term : Text) (doc : DocId) :
    (index.postingsOf term).get? doc = stored? index.postings term doc := by
  unfold Index.postingsOf stored?
  cases index.postings.get? term <;> rfl

theorem positions_stored (index : Index) (term : Text) (doc : DocId) :
    index.positionsOf term doc = (stored? index.postings term doc).getD [] := by
  rw [Index.positionsOf, postings_get]

theorem mem_documents_containing :
    doc ∈ index.documentsContaining term ↔ (stored? index.postings term doc).isSome = true := by
  rw [← postings_get]
  exact Assoc.contains_iff_mem_keys.symm

theorem listed_of_stored {positions : List Int}
    (held : stored? index.postings term doc = some positions) :
    doc ∈ index.documentsContaining term := mem_documents_containing.mpr (by rw [held]; rfl)

theorem stored_of_listed (listed : doc ∈ index.documentsContaining term) :
    ∃ positions, stored? index.postings term doc = some positions :=
  Option.isSome_iff_exists.mp (mem_documents_containing.mp listed)

theorem containing_of_position {position : Int} (member : position ∈ index.positionsOf term doc) :
    doc ∈ index.documentsContaining term := by
  rw [positions_stored] at member
  cases held : stored? index.postings term doc with
  | none => rw [held] at member; cases member
  | some positions => exact listed_of_stored held

/-- The documents of an index are those for which some term has positions stored. -/
theorem mem_documents :
    doc ∈ index.documents ↔ ∃ term, (stored? index.postings term doc).isSome = true := by
  simp only [Index.documents, DocSet.mem_ofList, List.mem_flatMap, Assoc.values, List.mem_map]
  constructor
  · rintro ⟨docs, ⟨⟨term, _⟩, member, rfl⟩, listed⟩
    refine ⟨term, ?_⟩
    rw [stored?, Assoc.get?_eq_some_iff.mpr member]
    exact Assoc.contains_iff_mem_keys.mpr listed
  · rintro ⟨term, present⟩
    obtain ⟨positions, held⟩ := Option.isSome_iff_exists.mp present
    obtain ⟨docs, found, inner⟩ := Option.bind_eq_some_iff.mp held
    exact ⟨docs, ⟨(term, docs), Assoc.get?_eq_some_iff.mp found, rfl⟩,
      Assoc.contains_iff_mem_keys.mp (by simp [Assoc.contains, inner])⟩

theorem documents_of_term (listed : doc ∈ index.documentsContaining term) :
    doc ∈ index.documents := mem_documents.mpr ⟨term, mem_documents_containing.mp listed⟩

/-- A term is known to an index exactly if some document has it. -/
theorem contains_iff_stored :
    index.contains term = true ↔ ∃ doc, (stored? index.postings term doc).isSome = true := by
  unfold Index.contains Assoc.contains
  constructor
  · intro known
    obtain ⟨docs, found⟩ := Option.isSome_iff_exists.mp known
    have occupied := index.occupied (term, docs) (Assoc.get?_eq_some_iff.mp found)
    obtain ⟨doc, listed⟩ : ∃ doc, doc ∈ docs.keys := by
      obtain ⟨entries, distinct⟩ := docs
      cases entries with
      | nil => cases occupied
      | cons entry rest => exact ⟨entry.1, by simp [Assoc.keys]⟩
    refine ⟨doc, ?_⟩
    rw [stored?, found]
    exact Assoc.contains_iff_mem_keys.mpr listed
  · rintro ⟨doc, present⟩
    cases found : index.postings.get? term with
    | none => simp [stored?, found] at present
    | some docs => rfl

/-- The terms of an index are those with documents. -/
theorem mem_terms : term ∈ index.terms ↔ ∃ doc, doc ∈ index.documentsContaining term := by
  simp only [mem_documents_containing, ← contains_iff_stored]
  exact Assoc.contains_iff_mem_keys.symm

theorem stored_of_known (known : index.contains term = true) :
    ∃ doc positions, stored? index.postings term doc = some positions := by
  obtain ⟨doc, present⟩ := contains_iff_stored.mp known
  exact ⟨doc, Option.isSome_iff_exists.mp present⟩

/-- Where stored lists are in order, all positions of a term in a document are strictly ascending. -/
theorem positions_ascending (ordered : AllStored Ordered index.postings) (term : Text)
    (doc : DocId) : (index.positionsOf term doc).Pairwise (· < ·) := by
  rw [positions_stored]
  cases held : stored? index.postings term doc with
  | none => exact .nil
  | some positions => exact (ordered term doc positions held).ascending

/-- Where stored lists are in order, a document of a term has a position of it. -/
theorem containing_iff_position (ordered : AllStored Ordered index.postings) :
    doc ∈ index.documentsContaining term ↔ ∃ position, position ∈ index.positionsOf term doc := by
  refine ⟨fun member => ?_, fun ⟨_, member⟩ => containing_of_position member⟩
  obtain ⟨positions, held⟩ := stored_of_listed member
  rw [positions_stored, held]
  exact List.exists_mem_of_ne_nil positions (ordered term doc positions held).nonempty

private theorem get_postings (index : Index) (term : Text) :
    index.postings.get? term =
      if index.contains term = true then some (index.postingsOf term) else none := by
  unfold Index.contains Assoc.contains Index.postingsOf
  cases index.postings.get? term <;> rfl

/-- An index is its terms and their documents, in order, and the positions that it stores. -/
theorem index_ext {left right : Index} (terms : left.terms = right.terms)
    (documents : ∀ term, (left.postingsOf term).keys = (right.postingsOf term).keys)
    (stored : ∀ term doc, stored? left.postings term doc = stored? right.postings term doc) :
    left = right := by
  have postings : ∀ term, left.postingsOf term = right.postingsOf term := by
    intro term
    apply Assoc.ext_of_keys (documents term)
    intro doc
    rw [postings_get, postings_get, stored]
  have known : ∀ term, left.contains term = right.contains term := by
    intro term
    rw [Bool.eq_iff_iff, contains_iff_stored, contains_iff_stored]
    simp only [stored]
  have same : left.postings = right.postings := by
    apply Assoc.ext_of_keys terms
    intro term
    rw [get_postings, get_postings, known, postings]
  cases left
  cases right
  simpa using same

/-! ## Entering occurrences -/

/-- A change of what is stored for one term in one document changes nothing else. -/
theorem stored_update (other : Text) (place : DocId) (f : Option (List Int) → List Int) :
    stored? (table.update other fun docs => (docs.getD ∅).update place f) term doc =
      if term = other ∧ doc = place then some (f (stored? table term doc))
      else stored? table term doc := by
  unfold stored?
  rw [Assoc.get?_update]
  by_cases sameTerm : term = other
  · subst sameTerm
    -- A term that is not listed has the empty table.
    have listed (doc : DocId) : ((table.get? term).getD ∅).get? doc =
        (table.get? term).bind fun docs => docs.get? doc := by
      cases table.get? term <;> rfl
    rw [if_pos rfl, Option.bind_some, Assoc.get?_update, listed, listed]
    by_cases sameDoc : doc = place
    · simp [sameDoc]
    · simp [sameDoc]
  · simp [sameTerm]

/-- One occurrence changes the positions of its own term in its own document only. -/
theorem stored_enter (occurrence : Occurrence) :
    stored? (Occurrence.enter table occurrence) term doc =
      if term = occurrence.term ∧ doc = occurrence.doc then
        some (Positions.insert occurrence.position ((stored? table term doc).getD []))
      else stored? table term doc :=
  stored_update _ _ _

theorem insert_ordered {position : Int} {positions : List Int}
    (ascending : positions.Pairwise (· < ·)) : Ordered (Positions.insert position positions) where
  nonempty := List.ne_nil_of_mem (Positions.mem_insert.mpr (.inl rfl))
  ascending := Positions.pairwise_insert ascending

theorem enter_ordered (ordered : AllStored Ordered table) (occurrence : Occurrence) :
    AllStored Ordered (Occurrence.enter table occurrence) := by
  intro term doc positions held
  rw [stored_enter] at held
  split at held
  · cases held
    apply insert_ordered
    cases before : stored? table term doc with
    | none => exact .nil
    | some positions => exact (ordered term doc positions before).ascending
  · exact ordered term doc positions held

/-- Entering occurrences one after the other keeps every stored list in order. -/
theorem entered_ordered (ordered : AllStored Ordered table) (occurrences : List Occurrence) :
    AllStored Ordered (occurrences.foldl Occurrence.enter table) := by
  induction occurrences generalizing table with
  | nil => exact ordered
  | cons occurrence rest ih => exact ih (enter_ordered ordered occurrence)

/-- After occurrences have been entered, the stored positions are those from before and those of the
occurrences, whatever their order. -/
theorem mem_entered {position : Int} (occurrences : List Occurrence) :
    position ∈ (stored? (occurrences.foldl Occurrence.enter table) term doc).getD [] ↔
      position ∈ (stored? table term doc).getD [] ∨ ⟨term, doc, position⟩ ∈ occurrences := by
  induction occurrences generalizing table with
  | nil => simp
  | cons occurrence rest ih =>
    rw [List.foldl_cons, ih, stored_enter, List.mem_cons]
    obtain ⟨otherTerm, otherDoc, other⟩ := occurrence
    by_cases same : term = otherTerm ∧ doc = otherDoc
    · obtain ⟨rfl, rfl⟩ := same
      simp [Positions.mem_insert, or_assoc, or_left_comm]
    · have different : (⟨term, doc, position⟩ : Occurrence) ≠ ⟨otherTerm, otherDoc, other⟩ := by
        rintro ⟨⟩
        exact same ⟨rfl, rfl⟩
      simp [same, different]

private theorem empty_ordered : AllStored Ordered ∅ := by
  intro term doc positions held
  cases held

/-- The stored lists of an index of occurrences are in order. -/
theorem of_occurrences_ordered (occurrences : List Occurrence) :
    AllStored Ordered (Index.ofOccurrences occurrences).postings := by
  intro term doc positions held
  rw [Index.ofOccurrences, stored_of_postings] at held
  exact entered_ordered empty_ordered occurrences term doc positions held

/-- An index of occurrences stores the positions of exactly these occurrences. -/
theorem mem_positions_of_occurrences {position : Int} (occurrences : List Occurrence) :
    position ∈ (Index.ofOccurrences occurrences).positionsOf term doc ↔
      ⟨term, doc, position⟩ ∈ occurrences := by
  rw [positions_stored, Index.ofOccurrences, stored_of_postings, mem_entered]
  exact or_iff_right List.not_mem_nil

/-! ## Documents -/

theorem scan_position {position offset : Int} {t : Text} {k : Nat} {token : Token}
    (found : (Analysis.scan position offset t)[k]? = some token) : token.position = position + k := by
  fun_induction Analysis.scan position offset t generalizing k
  · cases found
  · rename_i ih
    cases k with
    | zero => cases found; simp
    | succ k =>
      have later := ih found
      omega

private theorem lowered_position (token : Token) : token.lowered.position = token.position := by
  unfold Token.lowered
  split <;> rfl

/-- The tokens of a text are numbered in order from zero. -/
theorem token_position {t : Text} {k : Nat} {token : Token}
    (found : (Analysis.tokens t)[k]? = some token) : token.position = k := by
  rw [Analysis.tokens, Analysis.tokenizeLowered, List.getElem?_map] at found
  obtain ⟨plain, at_k, rfl⟩ := Option.map_eq_some_iff.mp found
  rw [lowered_position, scan_position at_k, Int.zero_add]

/-- A document's occurrences are its words in order, each with its number. -/
theorem of_document_words (name : DocId) (t : Text) :
    Occurrence.ofDocument name t = (Analysis.analyze t).mapIdx fun k term => ⟨term, name, k⟩ := by
  apply List.ext_getElem?
  intro k
  rw [Occurrence.ofDocument, Analysis.analyze, List.getElem?_map, List.getElem?_mapIdx,
    List.getElem?_map]
  cases found : (Analysis.tokens t)[k]? with
  | none => rfl
  | some token => rw [Option.map_some, Option.map_some, Option.map_some, token_position found]

/-- A document's occurrences are its words with their places. -/
theorem mem_of_document {name : DocId} {t : Text} {position : Int} :
    ⟨term, doc, position⟩ ∈ Occurrence.ofDocument name t ↔
      doc = name ∧ ∃ k : Nat, position = k ∧ (Analysis.analyze t)[k]? = some term := by
  rw [of_document_words, List.mem_mapIdx]
  constructor
  · rintro ⟨k, inside, same⟩
    cases same
    exact ⟨rfl, k, rfl, List.getElem?_eq_getElem inside⟩
  · rintro ⟨rfl, k, rfl, found⟩
    obtain ⟨inside, same⟩ := List.getElem?_eq_some_iff.mp found
    exact ⟨k, inside, by rw [same]⟩

/-- In an index of documents, a term stands at a position of a document exactly if a text of that
name has it there. -/
theorem mem_positions_of_documents {documents : List (DocId × Text)} {position : Int} :
    position ∈ (Index.ofDocuments documents).positionsOf term doc ↔
      ∃ t, (doc, t) ∈ documents ∧
        ∃ k : Nat, position = k ∧ (Analysis.analyze t)[k]? = some term := by
  rw [Index.ofDocuments, mem_positions_of_occurrences, List.mem_flatMap]
  constructor
  · rintro ⟨⟨name, t⟩, member, occurs⟩
    obtain ⟨rfl, place⟩ := mem_of_document.mp occurs
    exact ⟨t, member, place⟩
  · rintro ⟨t, member, place⟩
    exact ⟨(doc, t), member, mem_of_document.mpr ⟨rfl, place⟩⟩

end Concordance.PostingContent
