import Concordance.Proofs.CodePointOrder
import Concordance.Proofs.FloatOrder
import Concordance.Ranking.Cosine

/-!
The order of a ranking. As long as no score is NaN, "ranked before" is the order of score and document: the
list is sorted by it, and a ranking does not depend on the order in which the candidates come.
-/
namespace Concordance.CanonicalRanking

open FloatOrder

variable {a b c : RankedDocument} {ranked : List RankedDocument}

/-- A better score, or an equal one and a document that is not later. The two zeros are equal. -/
def Precedes (a b : RankedDocument) : Prop :=
  b.score < a.score ∨ (a.score == b.score) = true ∧ Text.atMost a.doc b.doc = true

/-- No score is NaN. -/
def Numbers (ranked : List RankedDocument) : Prop := ∀ a ∈ ranked, a.score.isNaN = false

/-! ## The order by score and document

The order that the ranking is sorted by is no order where scores are NaN. This one is total and agrees with
it elsewhere. -/

private def level (a b : RankedDocument) : Bool :=
  place b.score < place a.score ∨ place a.score = place b.score ∧ Text.atMost a.doc b.doc = true

private theorem level_iff : level a b = true ↔
    place b.score < place a.score ∨
      place a.score = place b.score ∧ Text.atMost a.doc b.doc = true := decide_eq_true_iff

private theorem level_trans (below : level a b = true) (above : level b c = true) :
    level a c = true := by
  rw [level_iff] at below above ⊢
  rcases below with better | ⟨same, earlier⟩
  · rcases above with best | ⟨equal, _⟩
    · exact .inl (best.trans better)
    · exact .inl (equal ▸ better)
  · rw [same]
    exact above.imp_right fun ⟨equal, later⟩ =>
      ⟨equal, CodePointOrder.at_most_trans earlier later⟩

private theorem level_total (a b : RankedDocument) : level a b = true ∨ level b a = true := by
  rw [level_iff, level_iff]
  rcases lt_trichotomy (place a.score) (place b.score) with less | same | more
  · exact .inr (.inl less)
  · exact (CodePointOrder.at_most_total a.doc b.doc).imp (fun earlier => .inr ⟨same, earlier⟩)
      fun later => .inr ⟨same.symm, later⟩
  · exact .inl (.inl more)

private theorem doc_eq_of_level (below : level a b = true) (above : level b a = true) :
    a.doc = b.doc := by
  rw [level_iff] at below above
  rcases below with better | ⟨same, earlier⟩
  · rcases above with best | ⟨same, _⟩
    · exact absurd best better.not_gt
    · exact absurd same better.ne
  · rcases above with best | ⟨_, later⟩
    · exact absurd same best.ne
    · exact CodePointOrder.at_most_antisymm earlier later

private theorem not_before_eq_level (numberA : a.score.isNaN = false)
    (numberB : b.score.isNaN = false) : (!Ranking.before b a) = level a b := by
  rw [Bool.eq_iff_iff, level_iff, Ranking.before, neg_beq_neg]
  simp only [neg_lt_neg_iff]
  split
  next equal =>
    have same := (beq_iff_place numberB numberA).mp equal
    simp [same]
  next different =>
    have apart : place b.score ≠ place a.score :=
      fun same => different ((beq_iff_place numberB numberA).mpr same)
    simp [lt_iff_place numberA numberB, apart.symm, apart.le_iff_lt]

private theorem precedes_iff_level (numberA : a.score.isNaN = false)
    (numberB : b.score.isNaN = false) : Precedes a b ↔ level a b = true := by
  rw [Precedes, level_iff, lt_iff_place numberB numberA, beq_iff_place numberA numberB]

private theorem order_eq (numbers : Numbers ranked) :
    Ranking.order ranked = ranked.mergeSort level := by
  have agree : ∀ a ∈ ranked, ∀ b ∈ ranked, (!Ranking.before b a) = level (id a) (id b) :=
    fun a here b there => not_before_eq_level (numbers a here) (numbers b there)
  -- A sort looks at its members only, so comparisons that agree on these sort alike.
  have mapped := List.map_mergeSort (r := fun a b => !Ranking.before b a) agree
  rwa [List.map_id, List.map_id] at mapped

/-! ## Rankings -/

theorem order_perm (ranked : List RankedDocument) : (Ranking.order ranked).Perm ranked :=
  List.mergeSort_perm ranked _

private theorem mergeSort_level (ranked : List RankedDocument) :
    (ranked.mergeSort level).Pairwise fun a b => level a b = true := by
  have transitive : ∀ a b c, level a b → level b c → level a c := fun _ _ _ => level_trans
  have total : ∀ a b, level a b || level b a := by
    intro a b
    rw [Bool.or_eq_true]
    exact level_total a b
  exact List.pairwise_mergeSort transitive total ranked

/-- Better scores come first, equal ones by document. -/
theorem order_pairwise (numbers : Numbers ranked) :
    (Ranking.order ranked).Pairwise Precedes := by
  have sorted := mergeSort_level ranked
  rw [← order_eq numbers] at sorted
  refine sorted.imp_of_mem fun here there below => ?_
  rw [precedes_iff_level (numbers _ ((order_perm ranked).mem_iff.mp here))
    (numbers _ ((order_perm ranked).mem_iff.mp there))]
  exact below

/-- Documents with one score each have one order, whatever order they come in. -/
theorem order_of_perm {left right : List RankedDocument} (same : left.Perm right)
    (numbers : Numbers left) (scored : ∀ a ∈ left, ∀ b ∈ left, a.doc = b.doc → a = b) :
    Ranking.order left = Ranking.order right := by
  have rightNumbers : Numbers right := fun a member => numbers a (same.mem_iff.mpr member)
  have reordered : (left.mergeSort level).Perm (right.mergeSort level) :=
    (List.mergeSort_perm left _).trans (same.trans (List.mergeSort_perm right _).symm)
  rw [order_eq numbers, order_eq rightNumbers]
  -- Neither comes before the other only if they are one document, and that has one score.
  refine reordered.eq_of_pairwise (fun a b here there below above => ?_)
    (mergeSort_level left) (mergeSort_level right)
  exact scored a (List.mem_mergeSort.mp here) b (same.mem_iff.mpr (List.mem_mergeSort.mp there))
    (doc_eq_of_level below above)

section
variable {candidates other : List DocId} {query : WeightVector}
variable {vectors : Assoc DocId WeightVector} {lengths : Assoc DocId Float}

theorem rank_docs_perm :
    ((Ranking.rank candidates query vectors lengths).map (·.doc)).Perm candidates := by
  refine ((order_perm _).map _).trans ?_
  simp [Function.comp_def]

theorem mem_rank {a : RankedDocument} (member : a ∈ Ranking.rank candidates query vectors lengths) :
    a.doc ∈ candidates ∧ a.score = Ranking.similarity query (Ranking.vectorOf vectors a.doc)
      query.length (Ranking.lengthOf lengths vectors a.doc) := by
  rw [Ranking.rank, (order_perm _).mem_iff, List.mem_map] at member
  obtain ⟨doc, here, rfl⟩ := member
  exact ⟨here, rfl⟩

/-- Without NaN, the order of the candidates does not show in their ranking. -/
theorem rank_of_perm (same : candidates.Perm other)
    (numbers : Numbers (Ranking.rank candidates query vectors lengths)) :
    Ranking.rank candidates query vectors lengths = Ranking.rank other query vectors lengths := by
  refine order_of_perm (same.map _) (fun a member => numbers a ?_) fun a here b there equal => ?_
  · exact (order_perm _).mem_iff.mpr member
  · obtain ⟨doc, _, rfl⟩ := List.mem_map.mp here
    obtain ⟨doc', _, rfl⟩ := List.mem_map.mp there
    rw [show doc = doc' from equal]

theorem eq_rank_of_ok (success : Ranking.rank? candidates query vectors lengths = .ok ranked) :
    ranked = Ranking.rank candidates query vectors lengths := by
  unfold Ranking.rank? at success
  split at success
  · exact (Except.ok.inj success).symm
  · cases success

/-- Without NaN, rankings of the same candidates are equal, and fail alike. -/
theorem rank?_of_perm (same : candidates.Perm other)
    (numbers : ∀ ranked, Ranking.rank? candidates query vectors lengths = .ok ranked →
      Numbers ranked) :
    Ranking.rank? candidates query vectors lengths =
      Ranking.rank? other query vectors lengths := by
  have alike : (candidates.all fun doc =>
      Ranking.divides query.length (Ranking.lengthOf lengths vectors doc)) =
        other.all fun doc =>
          Ranking.divides query.length (Ranking.lengthOf lengths vectors doc) := same.all_eq
  -- Whether some candidate fails does not depend on the order either.
  unfold Ranking.rank? at numbers ⊢
  rw [← alike]
  split
  next divisible =>
    rw [if_pos divisible] at numbers
    rw [rank_of_perm same (numbers _ rfl)]
  next => rfl

theorem rank_pairwise (numbers : Numbers (Ranking.rank candidates query vectors lengths)) :
    (Ranking.rank candidates query vectors lengths).Pairwise Precedes :=
  order_pairwise fun a member => numbers a ((order_perm _).mem_iff.mpr member)

end
end Concordance.CanonicalRanking
