import Concordance.Proofs.PostingContent
import Concordance.Query.Evaluation

/-!
What the scan of a phrase finds. The scan looks at pairs of neighbouring words from left to right,
leaves a list of positions early, and threads the end of each pair into the next one; what it decides
is a statement about positions alone, without any order in which they are looked at.
-/
namespace Concordance.PhraseScan

/-! ## One pair of words -/

/-- A pair of neighbouring positions that the anchor allows. -/
def Accepted (anchor : Int) (firsts seconds : List Int) (first : Int) : Prop :=
  first ∈ firsts ∧ first + 1 ∈ seconds ∧ (anchor = Phrase.unanchored ∨ anchor = first)

/-- Leaving the second list at the first position that is too large misses nothing. -/
theorem follows_ascending {anchor first : Int} {seconds : List Int}
    (ascending : seconds.Pairwise (· ≤ ·)) :
    Phrase.follows anchor first seconds =
      if first + 1 ∈ seconds ∧ (anchor = Phrase.unanchored ∨ anchor = first) then some (first + 1)
      else none := by
  induction seconds with
  | nil => simp [Phrase.follows]
  | cons second rest ih =>
    obtain ⟨least, ascendingRest⟩ := List.pairwise_cons.mp ascending
    unfold Phrase.follows
    by_cases beyond : first + 1 < second
    · have absent : first + 1 ∉ second :: rest := by
        intro member
        cases List.mem_cons.mp member with
        | inl same => omega
        | inr later =>
          have := least (first + 1) later
          omega
      simp [beyond, absent]
    · rw [if_neg beyond, ih ascendingRest]
      by_cases here : second = first + 1
      · subst here
        -- Where the anchor refuses the pair here, it refuses every repetition of it as well.
        by_cases allowed : anchor = Phrase.unanchored ∨ anchor = first <;> simp [allowed]
      · simp [here, Ne.symm here]

/-- A first position contributes its successor exactly if the pair is accepted. -/
private theorem follows_accepted {anchor first stop : Int} {firsts seconds : List Int}
    (ascending : seconds.Pairwise (· ≤ ·)) (listed : first ∈ firsts) :
    Phrase.follows anchor first seconds = some stop ↔
      stop = first + 1 ∧ Accepted anchor firsts seconds first := by
  rw [follows_ascending ascending]
  simp [Accepted, listed, eq_comm, and_comm]

/-- A scan that succeeds has found the least pair that is accepted. -/
theorem pair_some_iff {anchor stop : Int} {firsts seconds : List Int}
    (ascendingFirsts : firsts.Pairwise (· ≤ ·)) (ascendingSeconds : seconds.Pairwise (· ≤ ·)) :
    Phrase.pair anchor firsts seconds = some stop ↔
      ∃ first, stop = first + 1 ∧ Accepted anchor firsts seconds first ∧
        ∀ earlier < first, ¬ Accepted anchor firsts seconds earlier := by
  unfold Phrase.pair
  constructor
  · intro found
    obtain ⟨before, first, after, rfl, here, missed⟩ := List.findSome?_eq_some_iff.mp found
    have listed : first ∈ before ++ first :: after := by simp
    obtain ⟨rfl, accepted⟩ := (follows_accepted ascendingSeconds listed).mp here
    refine ⟨first, rfl, accepted, ?_⟩
    intro earlier less acceptedEarlier
    rcases List.mem_append.mp acceptedEarlier.1 with inside | inside
    · have hit := (follows_accepted ascendingSeconds acceptedEarlier.1).mpr ⟨rfl, acceptedEarlier⟩
      rw [missed earlier inside] at hit
      cases hit
    · have least := (List.pairwise_cons.mp (List.pairwise_append.mp ascendingFirsts).2.1).1
      cases List.mem_cons.mp inside with
      | inl same => omega
      | inr later =>
        have := least earlier later
        omega
  · rintro ⟨first, rfl, accepted, least⟩
    obtain ⟨before, after, rfl, fresh⟩ := List.eq_append_cons_of_mem accepted.1
    refine List.findSome?_eq_some_iff.mpr ⟨before, first, after, rfl, ?_, ?_⟩
    · exact (follows_accepted ascendingSeconds accepted.1).mpr ⟨rfl, accepted⟩
    · intro earlier inside
      have atMost : earlier ≤ first :=
        (List.pairwise_append.mp ascendingFirsts).2.2 earlier inside first (by simp)
      have different : earlier ≠ first := fun same => fresh (same ▸ inside)
      cases missed : Phrase.follows anchor earlier seconds with
      | none => rfl
      | some stop =>
        have listed : earlier ∈ before ++ first :: after := by simp [inside]
        exact absurd ((follows_accepted ascendingSeconds listed).mp missed).2
          (least earlier (by omega))

/-- A scan fails exactly if no pair is accepted. -/
theorem pair_none_iff {anchor : Int} {firsts seconds : List Int}
    (ascendingSeconds : seconds.Pairwise (· ≤ ·)) :
    Phrase.pair anchor firsts seconds = none ↔ ∀ first, ¬ Accepted anchor firsts seconds first := by
  unfold Phrase.pair
  rw [List.findSome?_eq_none_iff]
  constructor
  · intro missed first accepted
    have hit := (follows_accepted ascendingSeconds accepted.1).mpr ⟨rfl, accepted⟩
    rw [missed first accepted.1] at hit
    cases hit
  · intro none first listed
    rw [follows_ascending ascendingSeconds]
    exact if_neg fun holds => none first ⟨listed, holds⟩

/-- The ends of all pairs that are accepted. Every two positions are looked at, and none is left out. -/
def everyPair (anchor : Int) (firsts seconds : List Int) : List Int :=
  firsts.flatMap fun first => seconds.filter fun second =>
    second = first + 1 ∧ (anchor = Phrase.unanchored ∨ anchor = first)

private theorem mem_everyPair {anchor stop : Int} {firsts seconds : List Int} :
    stop ∈ everyPair anchor firsts seconds ↔
      ∃ first, stop = first + 1 ∧ Accepted anchor firsts seconds first := by
  simp only [everyPair, List.mem_flatMap, List.mem_filter, decide_eq_true_eq, Accepted]
  constructor
  · rintro ⟨first, listed, next, rfl, allowed⟩
    exact ⟨first, rfl, listed, next, allowed⟩
  · rintro ⟨first, rfl, listed, next, allowed⟩
    exact ⟨first, listed, next, rfl, allowed⟩

/-- The scan finds what the scan of all pairs finds first in ascending order. -/
private theorem pair_least {anchor : Int} {firsts seconds : List Int}
    (ascendingFirsts : firsts.Pairwise (· ≤ ·)) (ascendingSeconds : seconds.Pairwise (· ≤ ·)) :
    Phrase.pair anchor firsts seconds = (everyPair anchor firsts seconds).min? := by
  cases scanned : Phrase.pair anchor firsts seconds with
  | none =>
    have rejected := (pair_none_iff ascendingSeconds).mp scanned
    refine (List.min?_eq_none_iff.mpr (List.eq_nil_iff_forall_not_mem.mpr fun stop member => ?_)).symm
    obtain ⟨first, -, accepted⟩ := mem_everyPair.mp member
    exact rejected first accepted
  | some stop =>
    obtain ⟨first, rfl, accepted, least⟩ :=
      (pair_some_iff ascendingFirsts ascendingSeconds).mp scanned
    refine (List.min?_eq_some_iff.mpr ⟨mem_everyPair.mpr ⟨first, rfl, accepted⟩, ?_⟩).symm
    intro other member
    obtain ⟨place, rfl, acceptedOther⟩ := mem_everyPair.mp member
    have : ¬ place < first := fun less => least place less acceptedOther
    omega

/-- **Leaving the lists of positions early misses no pair.** If the positions of both words ascend in a
document, be they repeated, negative or none at all, the scan for the two words gives the least end of a pair
that a scan of all pairs accepts. So it gives the place behind the least place of the first word that the
anchor allows and that the second word follows, and it fails exactly if there is no such place. -/
theorem bigram_ends_least_pair {index : Index} {doc : DocId} {first second : Text} (anchor : Int)
    (ascendingFirsts : (index.positionsOf first doc).Pairwise (· ≤ ·))
    (ascendingSeconds : (index.positionsOf second doc).Pairwise (· ≤ ·)) :
    let accepts := Accepted anchor (index.positionsOf first doc) (index.positionsOf second doc)
    Phrase.bigram index doc first second anchor =
        (everyPair anchor (index.positionsOf first doc) (index.positionsOf second doc)).min? ∧
      (∀ stop, Phrase.bigram index doc first second anchor = some stop ↔
        ∃ place, stop = place + 1 ∧ accepts place ∧ ∀ earlier < place, ¬ accepts earlier) ∧
      (Phrase.bigram index doc first second anchor = none ↔ ¬ ∃ place, accepts place) := by
  refine ⟨pair_least ascendingFirsts ascendingSeconds,
    fun stop => pair_some_iff ascendingFirsts ascendingSeconds, ?_⟩
  rw [not_exists]
  exact pair_none_iff ascendingSeconds

/-- Two words at repeated and negative places: without an anchor the least pair is found, with one the pair
behind it, and at a place without a pair none. -/
theorem repeated_places_scanned :
    let index := Index.ofLists [("x".toList, [("d".toList, [-3, -3, 1, 4])]),
      ("y".toList, [("d".toList, [-2, 2, 2, 5])])]
    (index.positionsOf "x".toList "d".toList).Pairwise (· ≤ ·) ∧
      (index.positionsOf "y".toList "d".toList).Pairwise (· ≤ ·) ∧
      Phrase.bigram index "d".toList "x".toList "y".toList 0 = some (-2) ∧
      Phrase.bigram index "d".toList "x".toList "y".toList 4 = some 5 ∧
      Phrase.bigram index "d".toList "x".toList "y".toList 2 = none := by
  intro index
  have firsts : (index.positionsOf "x".toList "d".toList).Pairwise (· ≤ ·) := by decide
  have seconds : (index.positionsOf "y".toList "d".toList).Pairwise (· ≤ ·) := by decide
  refine ⟨firsts, seconds, ?_, ?_, ?_⟩
  · exact (bigram_ends_least_pair 0 firsts seconds).1.trans (by decide)
  · exact (bigram_ends_least_pair 4 firsts seconds).1.trans (by decide)
  · exact (bigram_ends_least_pair 2 firsts seconds).1.trans (by decide)

/-! ## Words in a row -/

/-- Words stand in a row in a document, the first one at `start`. -/
def RowFrom (index : Index) (doc : DocId) (start : Int) (words : List Text) : Prop :=
  ∀ (k : Nat) word, words[k]? = some word → start + k ∈ index.positionsOf word doc

/-- The positions of every term in a document are strictly ascending, and none is negative. -/
structure Placed (index : Index) (doc : DocId) : Prop where
  ascending : ∀ term, (index.positionsOf term doc).Pairwise (· < ·)
  nonneg : ∀ term, ∀ position ∈ index.positionsOf term doc, 0 ≤ position

variable {index : Index} {doc : DocId}

theorem Placed.ordered (placed : Placed index doc) (term : Text) :
    (index.positionsOf term doc).Pairwise (· ≤ ·) :=
  (placed.ascending term).imp Int.le_of_lt

private theorem row_cons {start : Int} {first : Text} {rest : List Text} :
    RowFrom index doc start (first :: rest) ↔
      start ∈ index.positionsOf first doc ∧ RowFrom index doc (start + 1) rest := by
  constructor
  · intro row
    refine ⟨by simpa using row 0 first rfl, fun k word found => ?_⟩
    have later := row (k + 1) word found
    rwa [Int.natCast_add, Int.natCast_one, Int.add_comm k, ← Int.add_assoc] at later
  · rintro ⟨here, row⟩ k word found
    cases k with
    | zero => cases found; simpa using here
    | succ k =>
      have later := row k word found
      rwa [Int.natCast_add, Int.natCast_one, Int.add_comm k, ← Int.add_assoc]

private theorem row_nil {start : Int} : RowFrom index doc start [] := by
  intro k word found
  cases found

/-- With an anchor, each further word has exactly one place left to stand at. -/
theorem match_anchored (placed : Placed index doc) {anchor : Int} {first : Text} {rest : List Text}
    (positive : 0 < anchor) (here : anchor ∈ index.positionsOf first doc) :
    Phrase.matchFrom index doc anchor (first :: rest) = true ↔
      RowFrom index doc anchor (first :: rest) := by
  induction rest generalizing anchor first with
  | nil => simp [Phrase.matchFrom, row_cons, here, row_nil]
  | cons second rest ih =>
    unfold Phrase.matchFrom Phrase.bigram
    cases scanned : Phrase.pair anchor (index.positionsOf first doc)
        (index.positionsOf second doc) with
    | none =>
      have rejected := (pair_none_iff (placed.ordered second)).mp scanned anchor
      have absent : anchor + 1 ∉ index.positionsOf second doc :=
        fun next => rejected ⟨here, next, .inr rfl⟩
      simp [row_cons, absent]
    | some stop =>
      obtain ⟨found, rfl, ⟨_, next, anchored⟩, _⟩ :=
        (pair_some_iff (placed.ordered first) (placed.ordered second)).mp scanned
      have same : found = anchor := by
        cases anchored with
        | inl zero => exact absurd zero (Int.ne_of_gt positive)
        | inr same => exact same.symm
      subst same
      simp only [ih (Int.add_pos_of_pos_of_nonneg positive (by decide)) next]
      rw [@row_cons index doc _ first]
      simp [here]

/-- The first place at which two words stand next to each other. -/
def LeastPair (index : Index) (doc : DocId) (first second : Text) (start : Int) : Prop :=
  RowFrom index doc start [first, second] ∧
    ∀ earlier < start, ¬ RowFrom index doc earlier [first, second]

private theorem accepted_unanchored {first second : Text} {start : Int} :
    Accepted Phrase.unanchored (index.positionsOf first doc) (index.positionsOf second doc) start ↔
      RowFrom index doc start [first, second] := by
  simp [Accepted, row_cons, row_nil]

/-- A phrase of several words is held exactly if all its words stand in a row from the first place of
its first two words. -/
theorem holds_iff (placed : Placed index doc) {first second : Text} {rest : List Text} :
    Phrase.holds index doc (first :: second :: rest) = true ↔
      ∃ start, LeastPair index doc first second start ∧
        RowFrom index doc start (first :: second :: rest) := by
  unfold Phrase.holds Phrase.matchFrom Phrase.bigram
  cases scanned : Phrase.pair Phrase.unanchored (index.positionsOf first doc)
      (index.positionsOf second doc) with
  | none =>
    have rejected := (pair_none_iff (placed.ordered second)).mp scanned
    simp only [Bool.false_eq_true, false_iff]
    rintro ⟨start, ⟨pair, _⟩, _⟩
    exact rejected start (accepted_unanchored.mpr pair)
  | some stop =>
    obtain ⟨start, rfl, accepted, least⟩ :=
      (pair_some_iff (placed.ordered first) (placed.ordered second)).mp scanned
    have pair : LeastPair index doc first second start :=
      ⟨accepted_unanchored.mp accepted,
        fun earlier less row => least earlier less (accepted_unanchored.mpr row)⟩
    have positive : 0 < start + 1 := Int.lt_add_one_of_le (placed.nonneg first start accepted.1)
    simp only [match_anchored placed positive accepted.2.1]
    constructor
    · exact fun row => ⟨start, pair, row_cons.mpr ⟨accepted.1, row⟩⟩
    · rintro ⟨other, otherPair, row⟩
      have same : other = start := by
        rcases Int.lt_trichotomy other start with less | same | greater
        · exact absurd otherPair.1 (pair.2 other less)
        · exact same
        · exact absurd pair.1 (otherPair.2 start greater)
      exact same ▸ (row_cons.mp row).2

/-- The documents of a phrase, said by positions alone: none for a phrase without words, those of the
word for a single one, and for several words those in which a row stands at the first pair. -/
theorem mem_documents_of_phrase (placed : Placed index doc) {phrase : Text} :
    doc ∈ Phrase.documents index phrase ↔
      match Text.words phrase with
      | [] => False
      | [word] => doc ∈ index.documentsContaining word
      | first :: second :: rest =>
        ∃ start, LeastPair index doc first second start ∧
          RowFrom index doc start (first :: second :: rest) := by
  unfold Phrase.documents
  split
  · rename_i none
    rw [none]
    exact iff_of_false DocSet.not_mem_empty id
  · rename_i word one
    rw [one]
  · rename_i first rest several words
    rw [words]
    cases rest with
    | nil => exact absurd rfl several
    | cons second rest =>
      rw [DocSet.mem_filter, holds_iff placed]
      refine and_iff_right_of_imp ?_
      rintro ⟨start, _, row⟩
      exact PostingContent.containing_of_position (row_cons.mp row).1

end Concordance.PhraseScan
