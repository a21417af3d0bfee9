import Concordance.Proofs.SearchAnswers
import Concordance.Proofs.WordCase
import Concordance.Proofs.WordCounts

/-!
What the vectors of an engine hold. The vectors are filled term by term from the index, turned over from
terms to documents; what comes out is, for every text with words, the weight of each of its words by how
often the text has it and in how many texts it occurs.
-/
namespace Concordance.VectorContent

open PostingContent WordCounts

variable {doc : DocId} {term : Text}

/-! ## Filling the vectors -/

section
variable {vectors : Assoc DocId WeightVector}

/-- A term enters the vector of each of its documents, and no other vector. -/
theorem get_enterTerm (vectors : Assoc DocId WeightVector) (term : TermStatistics) (doc : DocId) :
    (WeightVector.enterTerm vectors term).get? doc =
      if term.postings.contains doc = true then
        some (((vectors.get? doc).getD ∅).add term.name (term.weightIn doc))
      else vectors.get? doc := by
  have distinct : term.postings.keys.Nodup := term.postings.distinct
  split
  next listed =>
    exact Assoc.get?_foldl_update_of_mem
      (fun doc vector => (vector.getD ∅).add term.name (term.weightIn doc)) distinct
      (Assoc.contains_iff_mem_keys.mp listed) vectors
  next unlisted =>
    exact Assoc.get?_foldl_update_of_not_mem
      (fun doc vector => (vector.getD ∅).add term.name (term.weightIn doc))
      (fun member => unlisted (Assoc.contains_iff_mem_keys.mpr member)) vectors

/-- The weight of a term in the vector of a document, if there are such a vector and such a weight. -/
def weight? (vectors : Assoc DocId WeightVector) (doc : DocId) (term : Text) : Option Float :=
  (vectors.get? doc).bind fun vector => vector.get? term

/-- Whether statistics are those of a term and list a document. -/
def concerns (statistics : TermStatistics) (doc : DocId) (term : Text) : Bool :=
  statistics.postings.contains doc && statistics.name == term

private theorem weight_enterTerm (vectors : Assoc DocId WeightVector) (statistics : TermStatistics) :
    weight? (WeightVector.enterTerm vectors statistics) doc term =
      (weight? vectors doc term).or
        (if concerns statistics doc term = true then some (statistics.weightIn doc) else none) := by
  rw [weight?, weight?, get_enterTerm, concerns]
  by_cases listed : statistics.postings.contains doc = true
  · cases vectors.get? doc with
    | none =>
      have none : (∅ : WeightVector).get? term = none := rfl
      simp [listed, Assoc.get?_add, none]
    | some vector => simp [listed, Assoc.get?_add]
  · simp [listed]

/-- After all terms have entered, a weight is the one from before, or that of the first statistics that
concern it. -/
private theorem weight_entered (terms : List TermStatistics) (vectors : Assoc DocId WeightVector) :
    weight? (terms.foldl WeightVector.enterTerm vectors) doc term =
      (weight? vectors doc term).or
        ((terms.find? (concerns · doc term)).map (·.weightIn doc)) := by
  induction terms generalizing vectors with
  | nil => simp
  | cons statistics rest ih =>
    rw [List.foldl_cons, ih, weight_enterTerm, Option.or_assoc, List.find?_cons]
    cases concerns statistics doc term <;> simp

private theorem contains_entered (terms : List TermStatistics) (vectors : Assoc DocId WeightVector) :
    (terms.foldl WeightVector.enterTerm vectors).contains doc = true ↔
      vectors.contains doc = true ∨ ∃ statistics ∈ terms, statistics.postings.contains doc = true := by
  induction terms generalizing vectors with
  | nil => simp
  | cons statistics rest ih =>
    have step : (WeightVector.enterTerm vectors statistics).contains doc = true ↔
        vectors.contains doc = true ∨ statistics.postings.contains doc = true := by
      rw [Assoc.contains, get_enterTerm]
      split
      next listed => simp [listed]
      next unlisted => rw [Assoc.contains, or_iff_left unlisted]
    rw [List.foldl_cons, ih, step, or_assoc]
    simp

/-- Where every document of a term has a vector, none is missed. -/
private theorem enter_known (term : TermStatistics) (docs : List DocId)
    (vectors : Assoc DocId WeightVector) (known : ∀ doc ∈ docs, vectors.contains doc = true) :
    docs.foldlM (WeightVector.enterWeight? term) vectors =
      .ok (docs.foldl (fun vectors doc =>
        vectors.update doc fun vector => (vector.getD ∅).add term.name (term.weightIn doc))
          vectors) := by
  induction docs generalizing vectors with
  | nil => rfl
  | cons doc rest ih =>
    obtain ⟨vector, found⟩ := Option.isSome_iff_exists.mp (known doc List.mem_cons_self)
    have step : WeightVector.enterWeight? term vectors doc =
        .ok (vectors.update doc fun vector =>
          (vector.getD ∅).add term.name (term.weightIn doc)) := by
      rw [WeightVector.enterWeight?, found, Assoc.update_of_found _ found]
      rfl
    rw [List.foldlM_cons, step]
    exact ih _ fun other member =>
      Assoc.contains_update.mpr (.inr (known other (List.mem_cons_of_mem _ member)))

private theorem fill_known (terms : List TermStatistics) (vectors : Assoc DocId WeightVector)
    (known : ∀ term ∈ terms, ∀ doc ∈ term.postings.keys, vectors.contains doc = true) :
    terms.foldlM (fun vectors (term : TermStatistics) =>
        term.postings.keys.foldlM (WeightVector.enterWeight? term) vectors) vectors =
      .ok (terms.foldl WeightVector.enterTerm vectors) := by
  induction terms generalizing vectors with
  | nil => rfl
  | cons term rest ih =>
    rw [List.foldlM_cons, enter_known term _ _ (known term List.mem_cons_self)]
    apply ih
    intro other member doc listed
    exact (contains_entered [term] vectors).mpr
      (.inl (known other (List.mem_cons_of_mem _ member) doc listed))

end

/-! ## The vectors of an index -/

section
variable {index : Index}

private theorem get_start (index : Index) (doc : DocId) :
    (Assoc.ofList (index.documents.members.map fun doc => (doc, (∅ : WeightVector)))).get? doc =
      if doc ∈ index.documents then some ∅ else none := by
  rw [Assoc.ofList, List.foldl_map]
  split
  next member =>
    exact Assoc.get?_foldl_update_of_mem (fun _ _ => (∅ : WeightVector)) index.documents.distinct
      member ∅
  next absent =>
    exact Assoc.get?_foldl_update_of_not_mem (fun _ _ => (∅ : WeightVector)) absent ∅

private theorem mem_statistics {statistics : TermStatistics} :
    statistics ∈ (TermStatistics.ofIndex index).values ↔
      (TermStatistics.ofIndex index).get? statistics.name = some statistics := by
  rw [Assoc.get?_eq_some_iff, Assoc.values, List.mem_map]
  constructor
  · rintro ⟨⟨name, value⟩, member, rfl⟩
    have named : value.name = name := by
      simp only [TermStatistics.ofIndex, Assoc.mapValues, List.mem_map, Prod.mk.injEq] at member
      obtain ⟨_, _, rfl, rfl⟩ := member
      rfl
    exact named ▸ member
  · exact fun member => ⟨_, member, rfl⟩

private theorem statistics_of_term (index : Index) (term : Text) :
    (TermStatistics.ofIndex index).get? term = (index.postings.get? term).map fun docs =>
      ⟨term, Weight.ofRarity docs.size index.documentCount, docs⟩ :=
  Assoc.get?_mapValues _ _ _

private theorem found_own {statistics : TermStatistics}
    (found : (TermStatistics.ofIndex index).values.find? (concerns · doc term) = some statistics) :
    (TermStatistics.ofIndex index).get? term = some statistics ∧
      statistics.postings.contains doc = true := by
  have concerned := List.find?_some found
  simp only [concerns, Bool.and_eq_true, beq_iff_eq] at concerned
  have own := mem_statistics.mp (List.mem_of_find?_eq_some found)
  rw [concerned.2] at own
  exact ⟨own, concerned.1⟩

/-- Statistics are found by the term, and there are none but those of the term itself. -/
private theorem find_statistics (index : Index) (doc : DocId) (term : Text) :
    (TermStatistics.ofIndex index).values.find? (concerns · doc term) =
      ((TermStatistics.ofIndex index).get? term).filter fun statistics =>
        statistics.postings.contains doc := by
  apply Option.ext
  intro statistics
  rw [Option.filter_eq_some_iff]
  constructor
  · exact found_own
  · rintro ⟨own, listed⟩
    have named : statistics.name = term := by
      rw [statistics_of_term] at own
      obtain ⟨_, _, rfl⟩ := Option.map_eq_some_iff.mp own
      rfl
    have member : statistics ∈ (TermStatistics.ofIndex index).values :=
      mem_statistics.mpr (by rw [named]; exact own)
    have concerned : concerns statistics doc term = true := by simp [concerns, listed, named]
    cases found : (TermStatistics.ofIndex index).values.find? (concerns · doc term) with
    | none => exact absurd concerned (List.find?_eq_none.mp found statistics member)
    | some other => rw [← own, (found_own found).1]

private theorem listed_document {statistics : TermStatistics}
    (member : statistics ∈ (TermStatistics.ofIndex index).values)
    (listed : statistics.postings.contains doc = true) : doc ∈ index.documents := by
  have own := mem_statistics.mp member
  rw [statistics_of_term] at own
  obtain ⟨docs, found, same⟩ := Option.map_eq_some_iff.mp own
  apply mem_documents.mpr
  refine ⟨statistics.name, ?_⟩
  rw [stored?, found, Option.bind_some]
  rwa [← same] at listed

/-- An engine has vectors for the documents of its index. -/
theorem vector_iff_document :
    (Engine.ofIndex index).vectors.contains doc = true ↔ doc ∈ index.documents := by
  change ((TermStatistics.ofIndex index).values.foldl WeightVector.enterTerm _).contains doc = true ↔ _
  rw [contains_entered, Assoc.contains, get_start]
  constructor
  · rintro (start | ⟨statistics, member, listed⟩)
    · split at start
      · assumption
      · cases start
    · exact listed_document member listed
  · intro member
    exact .inl (by rw [if_pos member]; rfl)

/-- The vectors are filled without a document being missed. -/
theorem vectors_filled (index : Index) :
    WeightVector.ofDocuments? index (TermStatistics.ofIndex index) =
      .ok (Engine.ofIndex index).vectors := by
  apply fill_known
  intro statistics member doc listed
  have known := listed_document member (Assoc.contains_iff_mem_keys.mpr listed)
  rw [Assoc.contains, get_start, if_pos known]
  rfl

private theorem mem_containing_iff :
    doc ∈ index.documentsContaining term ↔ (index.postingsOf term).contains doc = true :=
  Assoc.contains_iff_mem_keys.symm

private theorem size_containing (index : Index) (term : Text) :
    (index.documentsContaining term).size = (index.postingsOf term).size := List.length_map Prod.fst

/-- A word of no document has no weight. -/
theorem rarity_of_none (total : Nat) : Weight.ofRarity 0 total = 0 := by
  simp [Weight.ofRarity, Weight.ofRarity?]

/-- The weight of a term in a document: by its positions there and by its documents. -/
theorem weight_of_term (index : Index) (doc : DocId) (term : Text) :
    weight? (Engine.ofIndex index).vectors doc term =
      if doc ∈ index.documentsContaining term then
        some (Weight.ofFrequency (index.positionsOf term doc).length *
          Weight.ofRarity (index.documentsContaining term).size index.documentCount)
      else none := by
  change weight? ((TermStatistics.ofIndex index).values.foldl WeightVector.enterTerm _) doc term = _
  have start : weight? (Assoc.ofList
      (index.documents.members.map fun doc => (doc, (∅ : WeightVector)))) doc term = none := by
    rw [weight?, get_start]
    split <;> rfl
  rw [weight_entered, start, Option.none_or, find_statistics, statistics_of_term]
  simp only [mem_containing_iff]
  cases found : index.postings.get? term with
  | none =>
    have listed : index.postingsOf term = ∅ := by rw [Index.postingsOf, found]; rfl
    rw [listed]
    rfl
  | some docs =>
    have listed : index.postingsOf term = docs := by rw [Index.postingsOf, found]; rfl
    rw [size_containing, Index.positionsOf, listed, Option.map_some, Option.filter_some]
    split <;> rfl

/-- How rare a word of a query is: as rare as a term, or not at all if it is unknown. -/
theorem rarity_of_word (index : Index) (word : Text) :
    (match (TermStatistics.ofIndex index).get? word with
      | some term => term.rarity
      | none => 0) =
      Weight.ofRarity (index.documentsContaining word).size index.documentCount := by
  rw [statistics_of_term, size_containing, Index.postingsOf]
  cases index.postings.get? word with
  | none => exact (rarity_of_none _).symm
  | some docs => rfl

end

/-! ## The vectors of texts -/

/-- The number of texts with words. -/
def occupied (documents : List (DocId × Text)) : Nat :=
  documents.countP fun (_, t) => Analysis.analyze t ≠ []

/-- The number of texts with a word. -/
def holding (documents : List (DocId × Text)) (term : Text) : Nat :=
  documents.countP fun (_, t) => (Analysis.analyze t).contains term

/-- How rare a word is among texts. -/
def rarity (documents : List (DocId × Text)) (term : Text) : Float :=
  Weight.ofRarity (holding documents term) (occupied documents)

/-- A vector has the words of a list, each once, and weighs each by how often the list has it and by how rare
it is among texts. -/
structure Weighs (documents : List (DocId × Text)) (words : List Text) (vector : WeightVector) :
    Prop where
  distinct : vector.keys.Nodup
  keys : ∀ term, term ∈ vector.keys ↔ term ∈ words
  weights : ∀ term ∈ words, vector.get? term =
    some (Weight.ofFrequency (words.count term) * rarity documents term)

variable {documents : List (DocId × Text)} {t : Text}

private theorem weighs_of_get {words : List Text} {vector : WeightVector}
    (weights : ∀ term, vector.get? term =
      if term ∈ words then some (Weight.ofFrequency (words.count term) * rarity documents term)
      else none) : Weighs documents words vector where
  distinct := vector.distinct
  keys term := by
    rw [← Assoc.contains_iff_mem_keys, Assoc.contains, weights]
    split <;> simp [*]
  weights term member := by rw [weights, if_pos member]

private theorem weight_of_text (distinct : (documents.map Prod.fst).Nodup)
    (given : (doc, t) ∈ documents) (term : Text) :
    weight? (Engine.ofIndex (Index.ofDocuments documents)).vectors doc term =
      if term ∈ Analysis.analyze t then
        some (Weight.ofFrequency ((Analysis.analyze t).count term) * rarity documents term)
      else none := by
  have spells := DirectScan.documents_spelled distinct given
  have ordered := DirectScan.documents_ordered documents
  have listed : doc ∈ (Index.ofDocuments documents).documentsContaining term ↔
      term ∈ Analysis.analyze t := by
    rw [← List.count_pos_iff, ← length_positions ordered spells, List.length_pos_iff_exists_mem,
      containing_iff_position ordered]
  simp only [weight_of_term, listed, length_positions ordered spells, rarity, holding, occupied,
    ← containing_count distinct, ← document_count distinct]

private theorem query_words (query : Text) :
    Analysis.analyze (Text.lower query) = Text.words (Text.lower query) := by
  rw [WordCase.analyze_lower, WordCase.analyze_words, WordCase.words_lower]

private theorem weight_in_query (distinct : (documents.map Prod.fst).Nodup) (query term : Text) :
    ((Engine.ofIndex (Index.ofDocuments documents)).queryVector query).get? term =
      if term ∈ Text.words (Text.lower query) then
        some (Weight.ofFrequency ((Text.words (Text.lower query)).count term) *
          rarity documents term)
      else none := by
  rw [Engine.queryVector, WeightVector.ofWords, Assoc.get?_mapValues, get_counts, query_words]
  have rare := rarity_of_word (Index.ofDocuments documents) term
  rw [containing_count distinct, document_count distinct] at rare
  by_cases asked : term ∈ Text.words (Text.lower query)
  · rw [if_pos asked, if_pos asked, Option.map_some]
    exact congrArg (fun rare => some (Weight.ofFrequency _ * rare)) rare
  · rw [if_neg asked, if_neg asked, Option.map_none]

/-- What the texts say about the vectors of an engine. -/
structure Weighed (documents : List (DocId × Text)) (engine : Engine) : Prop where
  /-- No document is missed when the vectors are filled. -/
  filled : WeightVector.ofDocuments? engine.index engine.statistics = .ok engine.vectors
  /-- The texts with words have vectors. -/
  present : ∀ doc, doc ∈ engine.vectors.keys ↔
    ∃ t, (doc, t) ∈ documents ∧ Analysis.analyze t ≠ []
  /-- A vector weighs the words of its text. -/
  vectors : ∀ doc t vector, (doc, t) ∈ documents → engine.vectors.get? doc = some vector →
    Weighs documents (Analysis.analyze t) vector
  /-- The vector of a query weighs all its words, operators among them, in the order in which they come. -/
  queries : ∀ query, Weighs documents (Text.words (Text.lower query)) (engine.queryVector query) ∧
    (engine.queryVector query).keys = (Text.words (Text.lower query)).eraseDups
  /-- A word of no text has no weight. -/
  unknown : ∀ word, (∀ document ∈ documents, word ∉ Analysis.analyze document.2) →
    rarity documents word = 0

/-- The vectors over an index of distinctly named texts are those of the texts. -/
theorem vectors_weigh_texts (documents : List (DocId × Text))
    (distinct : (documents.map Prod.fst).Nodup) :
    Weighed documents (Engine.ofIndex (Index.ofDocuments documents)) where
  filled := vectors_filled _
  present doc := by
    rw [← Assoc.contains_iff_mem_keys, vector_iff_document, DirectScan.mem_documents_of_documents]
  vectors doc t vector given found := by
    apply weighs_of_get
    intro term
    have weight := weight_of_text distinct given term
    rwa [weight?, found, Option.bind_some] at weight
  queries query := by
    refine ⟨weighs_of_get (weight_in_query distinct query), ?_⟩
    rw [Engine.queryVector, WeightVector.ofWords, Assoc.keys_mapValues, keys_counts, query_words]
  unknown word absent := by
    have none_holds : holding documents word = 0 := by
      rw [holding, List.countP_eq_zero]
      intro document member
      simpa using absent document member
    rw [rarity, none_holds]
    exact rarity_of_none _

/-- Of two texts with words only one repeats a word; the text of blanks has no vector and is not counted, and
the query weighs its operator like any other word. -/
theorem blank_text_not_weighed :
    let documents := [("a".toList, "x Y x".toList), ("b".toList, " ".toList), ("c".toList, "y".toList)]
    let engine := Engine.ofIndex (Index.ofDocuments documents)
    (documents.map Prod.fst).Nodup ∧ occupied documents = 2 ∧
      "b".toList ∉ engine.vectors.keys ∧
      (∀ vector, engine.vectors.get? "a".toList = some vector → vector.get? "x".toList =
        some (Weight.ofFrequency 2 * Weight.ofRarity 1 2)) ∧
      (engine.queryVector "Y and y".toList).keys = ["y".toList, "and".toList] := by
  intro documents engine
  have distinct : (documents.map Prod.fst).Nodup := by decide
  have weighed := vectors_weigh_texts documents distinct
  refine ⟨distinct, by decide +kernel, fun member => ?_, fun vector found => ?_, ?_⟩
  · obtain ⟨t, given, nonempty⟩ := (weighed.present _).mp member
    simp only [documents, List.mem_cons, Prod.mk.injEq, List.not_mem_nil, or_false] at given
    rcases given with ⟨other, _⟩ | ⟨_, rfl⟩ | ⟨other, _⟩
    · exact absurd other (by decide)
    · exact nonempty (by decide +kernel)
    · exact absurd other (by decide)
  · have weight := (weighed.vectors _ _ vector List.mem_cons_self found).weights "x".toList
      (by decide +kernel)
    have counts : (Analysis.analyze "x Y x".toList).count "x".toList = 2 ∧
        holding documents "x".toList = 1 ∧ occupied documents = 2 := by decide +kernel
    rwa [rarity, counts.1, counts.2.1, counts.2.2] at weight
  · rw [(weighed.queries _).2]
    decide +kernel

end Concordance.VectorContent
