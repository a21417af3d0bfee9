import Concordance.Engine
import Concordance.Proofs.CanonicalRanking
import Concordance.Proofs.DirectScan
import Concordance.Proofs.LengthProduct
import Concordance.Proofs.SmallLetters

/-!
What a search answers. A query that is only a keyword is rejected; of any other query the documents are
those that it selects, each once, with the cosine of query and document for a score. The lengths that the
engine keeps are those of its vectors, so a search scores as if it computed them anew.
-/
namespace Concordance.SearchAnswers

open CanonicalRanking

variable {index : Index} {query : Text} {doc : DocId}

/-! ## The vectors of an engine -/

section
variable {κ υ : Type} [DecidableEq κ] {table : Assoc κ υ} {key : κ}

private theorem contains_foldl {β : Type} {step : Assoc κ υ → β → Assoc κ υ}
    (keeps : ∀ table b, table.contains key = true → (step table b).contains key = true)
    (items : List β) (known : table.contains key = true) :
    (items.foldl step table).contains key = true := by
  induction items generalizing table with
  | nil => exact known
  | cons b rest ih => exact ih (keeps table b known)

private theorem contains_ofList {pairs : List (κ × υ)} (member : key ∈ pairs.map Prod.fst) :
    (Assoc.ofList pairs).contains key = true := by
  unfold Assoc.ofList
  generalize Assoc.empty = table
  induction pairs generalizing table with
  | nil => cases member
  | cons pair rest ih =>
    rcases List.mem_cons.mp member with rfl | later
    · -- The key enters here, and no later pair takes it away.
      exact contains_foldl (fun _ _ kept => Assoc.contains_update.mpr (.inr kept)) rest
        (Assoc.contains_update.mpr (.inl rfl))
    · exact ih later _

end

private theorem enterTerm_keeps (vectors : Assoc DocId WeightVector) (term : TermStatistics)
    (known : vectors.contains doc = true) :
    (WeightVector.enterTerm vectors term).contains doc = true :=
  contains_foldl (fun _ _ kept => Assoc.contains_update.mpr (.inr kept)) _ known

theorem vector_of_document (member : doc ∈ index.documents) :
    ∃ vector, (Engine.ofIndex index).vectors.get? doc = some vector := by
  rw [← Option.isSome_iff_exists]
  refine contains_foldl enterTerm_keeps _ (contains_ofList ?_)
  rw [List.map_map]
  exact List.mem_map.mpr ⟨doc, member, rfl⟩

/-- The engine has a vector for each document that a query selects, and keeps the length of that vector. -/
theorem vector_of_selected (selected : doc ∈ (Engine.ofIndex index).evaluate query) :
    ∃ vector, (Engine.ofIndex index).vectors.get? doc = some vector ∧
      (Engine.ofIndex index).lengths.get? doc = some vector.length := by
  have member : doc ∈ index.documents := DirectScan.evaluate_in_documents selected
  obtain ⟨vector, found⟩ := vector_of_document member
  refine ⟨vector, found, ?_⟩
  change ((Engine.ofIndex index).vectors.mapValues _).get? doc = _
  rw [Assoc.get?_mapValues, found]
  rfl

/-! ## Answers -/

theorem bare_iff {t : Text} : Query.isBareOperator t = true ↔
    ∃ operator : Operator, Text.trim t = operator.keyword := by
  simp [Query.isBareOperator, List.any_eq_true]

/-- The ranking that a search gives, with the vector of the query as it was asked. -/
def ranking (engine : Engine) (query : Text) : List RankedDocument :=
  Ranking.rank (engine.evaluate query).members (engine.queryVector query) engine.vectors
    engine.lengths

theorem search_eq (engine : Engine) (query : Text) :
    engine.search query =
      if Query.isBareOperator (Text.lower query) then .rejected
      else .answered (Query.parse (Text.lower query)) (ranking engine query) := by
  -- A search puts the query into small letters before it takes its vector, which does so once more.
  simp only [Engine.search, Engine.answer, Engine.queryVector, SmallLetters.lower_lower]
  rfl

private theorem mem_ranking {ranked : RankedDocument}
    (member : ranked ∈ ranking (Engine.ofIndex index) query) :
    ∃ vector, (Engine.ofIndex index).vectors.get? ranked.doc = some vector ∧
      ranked.score = Ranking.similarity ((Engine.ofIndex index).queryVector query) vector
        ((Engine.ofIndex index).queryVector query).length vector.length := by
  obtain ⟨selected, score⟩ := mem_rank member
  obtain ⟨vector, found, kept⟩ := vector_of_selected selected
  rw [Ranking.lengthOf, kept, Ranking.vectorOf, found] at score
  exact ⟨vector, found, score⟩

private theorem rank_ranking :
    Ranking.rank? ((Engine.ofIndex index).evaluate query).members
        ((Engine.ofIndex index).queryVector query) (Engine.ofIndex index).vectors
        (Engine.ofIndex index).lengths =
      .ok (ranking (Engine.ofIndex index) query) := by
  rw [Ranking.rank?, if_pos]
  · rfl
  · rw [List.all_eq_true]
    intro doc selected
    obtain ⟨vector, _, kept⟩ := vector_of_selected selected
    rw [Ranking.lengthOf, kept]
    exact LengthProduct.divides_roots _ _

/-- In a search the ranking fails for no document. -/
theorem ranking_succeeds (index : Index) (query : Text) :
    (Engine.ofIndex index).ranking? (Query.parse (Text.lower query)) (Text.lower query) =
      .ok (ranking (Engine.ofIndex index) query) := by
  have vector : (Engine.ofIndex index).queryVector (Text.lower query) =
      (Engine.ofIndex index).queryVector query := by
    simp only [Engine.queryVector, SmallLetters.lower_lower]
  rw [Engine.ranking?, vector]
  exact rank_ranking

/-- What an outcome tells about a query. -/
structure Answers (engine : Engine) (query : Text) (outcome : Outcome) : Prop where
  /-- A query is rejected exactly if it is a keyword between blanks. -/
  rejected_iff : outcome.isRejected = true ↔
    ∃ operator : Operator, Text.trim (Text.lower query) = operator.keyword
  /-- A rejected query has no documents. -/
  rejected_empty : outcome.isRejected = true → outcome.documents = []
  /-- No document is given twice. -/
  distinct : (outcome.documents.map (·.doc)).Nodup
  /-- The documents are those that the query selects, whatever their score. -/
  selected : outcome.isRejected = false →
    ∀ doc, doc ∈ outcome.documents.map (·.doc) ↔ doc ∈ engine.evaluate query
  /-- With the lengths that the engine keeps, the ranking fails for no document. -/
  succeeds : outcome.isRejected = false →
    Ranking.rank? (engine.evaluate query).members (engine.queryVector query) engine.vectors
      engine.lengths = .ok outcome.documents
  /-- A score is the cosine of the query's vector and the document's, each with its own length. -/
  scored : ∀ ranked ∈ outcome.documents, ∃ vector,
    engine.vectors.get? ranked.doc = some vector ∧
      Ranking.similarity? (engine.queryVector query) vector (engine.queryVector query).length
        vector.length = .ok ranked.score
  /-- Better scores come first, equal ones by document. -/
  ordered : Numbers outcome.documents → outcome.documents.Pairwise Precedes

private theorem search_answers (index : Index) (query : Text) :
    Answers (Engine.ofIndex index) query ((Engine.ofIndex index).search query) := by
  rw [search_eq]
  split
  next bare =>
    exact {
      rejected_iff := ⟨fun _ => bare_iff.mp bare, fun _ => rfl⟩
      rejected_empty := fun _ => rfl
      distinct := .nil
      selected := fun rejected => Bool.noConfusion rejected
      succeeds := fun rejected => Bool.noConfusion rejected
      scored := fun _ member => absurd member List.not_mem_nil
      ordered := fun _ => .nil }
  next other =>
    exact {
      rejected_iff := ⟨fun rejected => Bool.noConfusion rejected,
        fun keyword => absurd (bare_iff.mpr keyword) other⟩
      rejected_empty := fun rejected => Bool.noConfusion rejected
      distinct := rank_docs_perm.nodup_iff.mpr ((Engine.ofIndex index).evaluate query).distinct
      selected := fun _ doc => rank_docs_perm.mem_iff
      succeeds := fun _ => rank_ranking
      scored := fun ranked member => by
        obtain ⟨vector, found, score⟩ := mem_ranking member
        exact ⟨vector, found, score ▸ LengthProduct.similarity_of_lengths _ vector⟩
      ordered := rank_pairwise }

/-- A search rejects keywords and otherwise ranks the documents that the query selects by their cosine. As
long as no score is NaN, a ranking is in order, and any order of the same candidates gives the same one. -/
theorem search_ranks_selection (index : Index) (query : Text) :
    Answers (Engine.ofIndex index) query ((Engine.ofIndex index).search query) ∧
      ∀ (candidates other : List DocId) (weights : WeightVector)
        (vectors : Assoc DocId WeightVector) (lengths : Assoc DocId Float),
        candidates.Perm other →
        (∀ ranked, Ranking.rank? candidates weights vectors lengths = .ok ranked →
          Numbers ranked) →
        Ranking.rank? candidates weights vectors lengths =
            Ranking.rank? other weights vectors lengths ∧
          ∀ ranked, Ranking.rank? candidates weights vectors lengths = .ok ranked →
            ranked.Pairwise Precedes := by
  refine ⟨search_answers index query, fun candidates other weights vectors lengths same numbers =>
    ⟨rank?_of_perm same numbers, fun ranked success => ?_⟩⟩
  have whole := eq_rank_of_ok success
  subst whole
  exact rank_pairwise (numbers _ success)

/-- A query of one word. -/
def oneWord : WeightVector := Assoc.ofList [("x".toList, 1)]

/-- Two vectors of one direction and unequal length. -/
def parallel : Assoc DocId WeightVector :=
  Assoc.ofList [("a".toList, oneWord), ("b".toList, Assoc.ofList [("x".toList, 2)])]

/-- Two documents of an index are found there and a keyword in capitals is rejected; the tie between
parallel vectors is ranked alike, and in order, from either order of the candidates. -/
theorem tie_ranked_alike :
    (∀ doc, doc ∈ ((Engine.ofIndex (Index.ofDocuments [("b".toList, "x".toList),
        ("a".toList, "y X".toList)])).search "x".toList).documents.map (·.doc) ↔
      doc = "b".toList ∨ doc = "a".toList) ∧
    ((Engine.ofIndex (Index.ofDocuments [("b".toList, "x".toList),
      ("a".toList, "y X".toList)])).search " OR NOT ".toList).documents = [] ∧
    ∃ ranked, ranked.Pairwise Precedes ∧
      Ranking.rank? ["b".toList, "a".toList] oneWord parallel ∅ = .ok ranked ∧
      Ranking.rank? ["a".toList, "b".toList] oneWord parallel ∅ = .ok ranked := by
  refine ⟨fun doc => ?_, ?_, ?_⟩
  · have members : ((Engine.ofIndex (Index.ofDocuments [("b".toList, "x".toList),
        ("a".toList, "y X".toList)])).evaluate "x".toList).members =
          ["b".toList, "a".toList] := by decide +kernel
    rw [(search_ranks_selection _ _).1.selected (by decide +kernel)]
    change doc ∈ DocSet.members _ ↔ _
    rw [members]
    simp
  · exact (search_ranks_selection _ _).1.rejected_empty
      ((search_ranks_selection _ _).1.rejected_iff.mpr ⟨.orNot, by decide +kernel⟩)
  · have numbers : ∀ doc ∈ ["b".toList, "a".toList],
        (Ranking.similarity oneWord (Ranking.vectorOf parallel doc) oneWord.length
          (Ranking.lengthOf ∅ parallel doc)).isNaN = false := by
      decide +kernel
    obtain ⟨ranked, success⟩ : ∃ ranked,
        Ranking.rank? ["b".toList, "a".toList] oneWord parallel ∅ = .ok ranked :=
      ⟨_, if_pos (by decide +kernel)⟩
    obtain ⟨alike, ordered⟩ := (search_ranks_selection (Index.ofDocuments []) []).2
      ["b".toList, "a".toList] ["a".toList, "b".toList] oneWord parallel ∅ (List.Perm.swap _ _ _)
      (by
        intro ranked success a member
        rw [eq_rank_of_ok success] at member
        obtain ⟨candidate, score⟩ := mem_rank member
        rw [score]
        exact numbers a.doc candidate)
    exact ⟨ranked, ordered ranked success, success, alike ▸ success⟩

private theorem order_pair (a b : RankedDocument) :
    Ranking.order [a, b] = if Ranking.before b a then [b, a] else [a, b] := by
  cases placed : Ranking.before b a <;>
    simp [Ranking.order, List.mergeSort, List.MergeSort.Internal.splitInTwo, placed]

/-- One of two vectors has a weight that is NaN. -/
def unweighed : Assoc DocId WeightVector :=
  Assoc.ofList [("a".toList, Assoc.ofList [("x".toList, Double.nanFloat)]), ("b".toList, oneWord)]

/-- A score that is NaN comes neither before nor after another one, so the order in which the candidates
come shows in their ranking. -/
theorem nan_keeps_given_order :
    ["a".toList, "b".toList].Perm ["b".toList, "a".toList] ∧
      Ranking.rank? ["a".toList, "b".toList] oneWord unweighed ∅ ≠
        Ranking.rank? ["b".toList, "a".toList] oneWord unweighed ∅ := by
  refine ⟨List.Perm.swap _ _ _, fun same => ?_⟩
  rw [Ranking.rank?, if_pos (by decide +kernel), Ranking.rank?, if_pos (by decide +kernel)] at same
  have docs := congrArg (List.map RankedDocument.doc) (Except.ok.inj same)
  simp only [Ranking.rank, List.map, order_pair] at docs
  revert docs
  decide +kernel

end Concordance.SearchAnswers
