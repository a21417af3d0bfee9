import Mathlib.Data.Int.LeastGreatest
import Concordance.Proofs.IndexInvariant
import Concordance.Proofs.PhraseScan

/-!
What a phrase means in an index, said by positions alone. The first place of the first two words decides:
a document is selected exactly if all the words stand in a row from there, whatever the scan does to find
out. The scan hands the end of each pair on as the anchor of the next one, and this is never the number that
would leave the next pair free.
-/
namespace Concordance.PhraseMeaning
open PhraseScan PostingContent

/-- Positions among which a phrase can be looked for. There may be gaps, and there may be none at all. -/
structure Tidy (positions : List Int) : Prop where
  ascending : positions.Pairwise (· < ·)
  natural : ∀ position ∈ positions, 0 ≤ position

/-- What a phrase asks of a document. Without words it asks for what no document has; a word asks to be
listed; and several words are to stand in a row at the first place of the first two of them. -/
def Asked (index : Index) (doc : DocId) : List Text → Prop
  | [] => False
  | [word] => doc ∈ index.documentsContaining word
  | first :: second :: rest =>
    ∃ start, LeastPair index doc first second start ∧
      RowFrom index doc start (first :: second :: rest)

/-- The scan of a document comes from one anchor, with words still to be placed, to another one with those
that are left: it takes pair after pair, and the end of each is the anchor of the next. -/
inductive Threads (index : Index) (doc : DocId) : Int → List Text → Int → List Text → Prop where
  | start {anchor : Int} {words : List Text} : Threads index doc anchor words anchor words
  | pair {anchor next final : Int} {first second : Text} {rest left : List Text} :
      Phrase.bigram index doc first second anchor = some next →
      Threads index doc next (second :: rest) final left →
      Threads index doc anchor (first :: second :: rest) final left

variable {index : Index} {doc : DocId} {anchor next final : Int} {first second : Text}
  {words left : List Text}

/-! ## Anchors -/

/-- A scan succeeds exactly if it comes to the last word. -/
theorem match_iff_threads :
    Phrase.matchFrom index doc anchor words = true ↔
      ∃ final left, Threads index doc anchor words final left ∧ left.length ≤ 1 := by
  fun_induction Phrase.matchFrom index doc anchor words with
  | case1 anchor first second rest none =>
    simp only [Bool.false_eq_true, false_iff]
    rintro ⟨final, left, threads, short⟩
    cases threads with
    | start => simp at short
    | pair found _ => cases none.symm.trans found
  | case2 anchor first second rest next found ih =>
    rw [ih]
    constructor
    · rintro ⟨final, left, threads, short⟩
      exact ⟨final, left, .pair found threads, short⟩
    · rintro ⟨final, left, threads, short⟩
      cases threads with
      | start => simp at short
      | pair again threads =>
        cases found.symm.trans again
        exact ⟨final, left, threads, short⟩
  | case3 words anchor few =>
    refine iff_of_true rfl ⟨anchor, words, .start, ?_⟩
    match words with
    | [] => exact Nat.zero_le 1
    | [_] => exact Nat.le_refl 1
    | first :: second :: rest => exact absurd rfl (few first second rest)

/-- A pair ends at a place of its second word, and never at the beginning of the document. -/
private theorem pair_end (placed : Placed index doc)
    (found : Phrase.bigram index doc first second anchor = some next) :
    0 < next ∧ next ∈ index.positionsOf second doc := by
  obtain ⟨start, rfl, accepted, _⟩ :=
    (pair_some_iff (placed.ordered first) (placed.ordered second)).mp found
  have natural := placed.nonneg first start accepted.1
  exact ⟨by omega, accepted.2.1⟩

/-- Wherever a scan has come to, its anchor is the one that it began with or the end of a pair. -/
private theorem anchor_of_threads (placed : Placed index doc)
    (threads : Threads index doc anchor words final left) :
    (final = anchor ∧ left = words) ∨ 0 < final := by
  induction threads with
  | start => exact .inl ⟨rfl, rfl⟩
  | pair found _ ih =>
    cases ih with
    | inl same => exact .inr (same.1 ▸ (pair_end placed found).1)
    | inr positive => exact .inr positive

/-! ## Places -/

private theorem tidy_placed (tidy : AllStored Tidy index.postings) (doc : DocId) :
    Placed index doc := by
  have each (term : Text) : Tidy (index.positionsOf term doc) := by
    rw [positions_stored]
    cases held : stored? index.postings term doc with
    | none => exact ⟨.nil, by simp⟩
    | some positions => exact tidy term doc positions held
  exact ⟨fun term => (each term).ascending, fun term => (each term).natural⟩

/-- Of the places at which two words stand next to each other one is the first. -/
private theorem least_pair (placed : Placed index doc) {start : Int}
    (row : RowFrom index doc start [first, second]) :
    ∃ least, LeastPair index doc first second least := by
  have bounded : ∀ place, RowFrom index doc place [first, second] → 0 ≤ place := by
    intro place here
    exact placed.nonneg first place (by simpa using here 0 first rfl)
  obtain ⟨least, here, below⟩ := Int.exists_least_of_bdd ⟨0, bounded⟩ ⟨start, row⟩
  refine ⟨least, here, fun earlier less there => ?_⟩
  have := below earlier there
  omega

theorem selected_iff_asked (placed : Placed index doc) (phrase : Text) :
    doc ∈ Phrase.documents index phrase ↔ Asked index doc (Text.words phrase) := by
  rw [mem_documents_of_phrase placed]
  match Text.words phrase with
  | [] => exact Iff.rfl
  | [_] => exact Iff.rfl
  | _ :: _ :: _ => exact Iff.rfl

/-- In an index with tidy positions, a phrase selects of all documents exactly those that are what it asks
for. So a document that is selected for several words has them in a row, and every place of two words next to
each other has its document selected. The scan of a document holds if it comes to the last word, and once it
has taken a pair its anchor is never the open one. -/
theorem phrase_means_first_row (index : Index) (tidy : AllStored Tidy index.postings)
    (phrase : Text) :
    (∀ doc, doc ∈ Phrase.documents index phrase ↔ Asked index doc (Text.words phrase)) ∧
      (∀ doc ∈ Phrase.documents index phrase, 2 ≤ (Text.words phrase).length →
        ∃ start, RowFrom index doc start (Text.words phrase)) ∧
      (∀ doc start, (Text.words phrase).length = 2 →
        RowFrom index doc start (Text.words phrase) → doc ∈ Phrase.documents index phrase) ∧
      ∀ doc,
        (Phrase.holds index doc (Text.words phrase) = true ↔ ∃ anchor left,
          Threads index doc Phrase.unanchored (Text.words phrase) anchor left ∧ left.length ≤ 1) ∧
        ∀ anchor left, Threads index doc Phrase.unanchored (Text.words phrase) anchor left →
          left ≠ Text.words phrase → anchor ≠ Phrase.unanchored := by
  have asked (doc : DocId) := selected_iff_asked (tidy_placed tidy doc) phrase
  refine ⟨asked, fun doc selected several => ?_, fun doc start two row => ?_, fun doc =>
    ⟨match_iff_threads, fun anchor left threads moved => ?_⟩⟩
  · rw [asked] at selected
    match words : Text.words phrase with
    | [] => simp [words] at several
    | [_] => simp [words] at several
    | first :: second :: rest =>
      rw [words] at selected
      obtain ⟨start, _, row⟩ := selected
      exact ⟨start, row⟩
  · rw [asked]
    obtain ⟨first, second, words⟩ := List.length_eq_two.mp two
    rw [words] at row ⊢
    obtain ⟨least, pair⟩ := least_pair (tidy_placed tidy doc) row
    exact ⟨least, pair, pair.1⟩
  · cases anchor_of_threads (tidy_placed tidy doc) threads with
    | inl same => exact absurd same.2 moved
    | inr positive => exact Int.ne_of_gt positive

/-- Positions with gaps, from a file. -/
def gapped : Index := Index.ofLines ["a\td: 0,1,5; e: 3,4,7,8".toList, "b\td: 2; e: 9".toList]

/-- A phrase that begins with a word twice: one document has it at the very beginning; the other one has it
in its second place only, which is not looked at. -/
theorem first_place_decides :
    AllStored Tidy gapped.postings ∧
      Asked gapped ['d'] (Text.words "a a b".toList) ∧
      ¬ Asked gapped ['e'] (Text.words "a a b".toList) := by
  have tidy : AllStored Tidy gapped.postings := by
    intro term doc positions held
    have canonical := IndexInvariant.of_lines_canonical _ term doc positions held
    exact ⟨canonical.ordered.ascending, canonical.natural⟩
  have meaning := (phrase_means_first_row gapped tidy "a a b".toList).1
  refine ⟨tidy, (meaning ['d']).mp (by decide +kernel), fun asked => ?_⟩
  exact absurd ((meaning ['e']).mpr asked) (by decide +kernel)

end Concordance.PhraseMeaning
