import Concordance.Engine
import Concordance.Proofs.PhraseScan

/-!
Answering a query from an index agrees with reading the documents. What a query asks of a document is
said on the list of its words alone, without positions, postings or sets of documents; the engine
selects exactly the documents that have words and are what the query asks for.
-/
namespace Concordance.DirectScan
open PhraseScan PostingContent

/-! ## What a query asks of a list of words -/

/-- Words stand in a row among the words of a document, the first one at `start`. -/
def RowAt (tokens : List Text) (start : Nat) (words : List Text) : Prop :=
  ∀ (k : Nat) word, words[k]? = some word → tokens[start + k]? = some word

/-- What a phrase asks: nothing has no words, one word occurs anywhere, and several words stand in a
row where the first two of them stand next to each other for the first time. -/
def SatPhrase (tokens : List Text) : List Text → Prop
  | [] => False
  | [word] => word ∈ tokens
  | first :: second :: rest =>
    ∃ start, RowAt tokens start [first, second] ∧
      (∀ earlier < start, ¬ RowAt tokens earlier [first, second]) ∧
      RowAt tokens start (first :: second :: rest)

/-- What a query asks of the words of a document. -/
def Sat (tokens : List Text) : Query → Prop
  | .phrase t => SatPhrase tokens (Text.words t)
  | .node .and left right => Sat tokens left ∧ Sat tokens right
  | .node .or left right => Sat tokens left ∨ Sat tokens right
  | .node .andNot left right => Sat tokens left ∧ ¬ Sat tokens right
  | .node .butNot left right => Sat tokens left ∧ ¬ Sat tokens right
  | .node .orNot left right => Sat tokens left ∨ ¬ Sat tokens right

private theorem row_at_iff_prefix {tokens words : List Text} {start : Nat} :
    RowAt tokens start words ↔ words <+: tokens.drop start := by
  rw [List.prefix_iff_getElem?]
  constructor
  · intro row k inside
    rw [List.getElem?_drop]
    exact row k _ (List.getElem?_eq_getElem inside)
  · intro ahead k word found
    obtain ⟨inside, rfl⟩ := List.getElem?_eq_some_iff.mp found
    rw [← List.getElem?_drop]
    exact ahead k inside

private theorem row_at_bound {tokens rest : List Text} {first : Text} {start : Nat}
    (row : RowAt tokens start (first :: rest)) : start < tokens.length := by
  have here : tokens[start]? = some first := row 0 first rfl
  exact (List.getElem?_eq_some_iff.mp here).1

instance (tokens words : List Text) (start : Nat) : Decidable (RowAt tokens start words) :=
  decidable_of_iff _ row_at_iff_prefix.symm

/-- A row starts within the words of the document, so there are finitely many places to try. -/
instance decideSatPhrase (tokens : List Text) : (words : List Text) → Decidable (SatPhrase tokens words)
  | [] => isFalse id
  | [word] => inferInstanceAs (Decidable (word ∈ tokens))
  | first :: second :: rest =>
    decidable_of_iff
      (∃ start < tokens.length, RowAt tokens start [first, second] ∧
        (∀ earlier < start, ¬ RowAt tokens earlier [first, second]) ∧
        RowAt tokens start (first :: second :: rest))
      ⟨fun ⟨start, _, found⟩ => ⟨start, found⟩,
        fun ⟨start, found⟩ => ⟨start, row_at_bound found.1, found⟩⟩

instance decideSat (tokens : List Text) : (query : Query) → Decidable (Sat tokens query)
  | .phrase t => decideSatPhrase tokens (Text.words t)
  | .node operator left right =>
    have := decideSat tokens left
    have := decideSat tokens right
    match operator with
    | .and => inferInstanceAs (Decidable (Sat tokens left ∧ Sat tokens right))
    | .or => inferInstanceAs (Decidable (Sat tokens left ∨ Sat tokens right))
    | .andNot => inferInstanceAs (Decidable (Sat tokens left ∧ ¬ Sat tokens right))
    | .butNot => inferInstanceAs (Decidable (Sat tokens left ∧ ¬ Sat tokens right))
    | .orNot => inferInstanceAs (Decidable (Sat tokens left ∨ ¬ Sat tokens right))

/-! ## One document in an index -/

/-- The positions of a document in an index are the places of these words. -/
def Spells (index : Index) (doc : DocId) (tokens : List Text) : Prop :=
  ∀ term position, position ∈ index.positionsOf term doc ↔
    ∃ k : Nat, position = k ∧ tokens[k]? = some term

variable {index : Index} {doc : DocId} {tokens : List Text}

private theorem spelled_nonneg (spells : Spells index doc tokens) {term : Text} {position : Int}
    (member : position ∈ index.positionsOf term doc) : 0 ≤ position := by
  obtain ⟨k, rfl, _⟩ := (spells term position).mp member
  exact Int.natCast_nonneg k

private theorem spelled_at (spells : Spells index doc tokens) {term : Text} {k : Nat} :
    (k : Int) ∈ index.positionsOf term doc ↔ tokens[k]? = some term := by
  rw [spells]
  constructor
  · rintro ⟨other, same, found⟩
    rwa [Int.ofNat.inj same]
  · exact fun found => ⟨k, rfl, found⟩

private theorem row_from_iff (spells : Spells index doc tokens) {start : Nat} {words : List Text} :
    RowFrom index doc start words ↔ RowAt tokens start words := by
  refine forall_congr' fun k => forall_congr' fun word => imp_congr_right fun _ => ?_
  rw [← Int.natCast_add, spelled_at spells]

private theorem row_start (spells : Spells index doc tokens) {start : Int} {first : Text}
    {rest : List Text} (row : RowFrom index doc start (first :: rest)) : ∃ k : Nat, start = k := by
  have here : start ∈ index.positionsOf first doc := by simpa using row 0 first rfl
  obtain ⟨k, same, _⟩ := (spells first start).mp here
  exact ⟨k, same⟩

private theorem least_pair_iff (spells : Spells index doc tokens) {first second : Text}
    {start : Nat} :
    LeastPair index doc first second start ↔
      RowAt tokens start [first, second] ∧
        ∀ earlier < start, ¬ RowAt tokens earlier [first, second] := by
  refine and_congr (row_from_iff spells) ⟨fun least earlier less row => ?_, fun least earlier less row => ?_⟩
  · exact least earlier (Int.ofNat_lt.mpr less) ((row_from_iff spells).mpr row)
  · obtain ⟨k, rfl⟩ := row_start spells row
    exact least k (Int.ofNat_lt.mp less) ((row_from_iff spells).mp row)

/-- A phrase selects a document exactly if its words are what the phrase asks for. -/
theorem phrase_spelled (spells : Spells index doc tokens)
    (ordered : AllStored Ordered index.postings) (phrase : Text) :
    doc ∈ Phrase.documents index phrase ↔ SatPhrase tokens (Text.words phrase) := by
  have placed : Placed index doc :=
    ⟨fun term => positions_ascending ordered term doc, fun _ _ => spelled_nonneg spells⟩
  rw [mem_documents_of_phrase placed]
  match Text.words phrase with
  | [] => exact Iff.rfl
  | [word] =>
    refine (containing_iff_position ordered).trans ⟨?_, ?_⟩
    · rintro ⟨position, member⟩
      obtain ⟨k, _, found⟩ := (spells word position).mp member
      exact List.mem_of_getElem? found
    · intro member
      obtain ⟨k, found⟩ := List.mem_iff_getElem?.mp member
      exact ⟨k, (spelled_at spells).mpr found⟩
  | first :: second :: rest =>
    constructor
    · rintro ⟨start, pair, row⟩
      obtain ⟨k, rfl⟩ := row_start spells row
      obtain ⟨here, least⟩ := (least_pair_iff spells).mp pair
      exact ⟨k, here, least, (row_from_iff spells).mp row⟩
    · rintro ⟨k, here, least, row⟩
      exact ⟨k, (least_pair_iff spells).mpr ⟨here, least⟩, (row_from_iff spells).mpr row⟩

/-- Within the documents of the index, a query selects a document exactly if its words are what the
query asks for. -/
theorem evaluate_spelled (spells : Spells index doc tokens)
    (ordered : AllStored Ordered index.postings) {all : DocSet} (listed : doc ∈ all)
    (query : Query) : doc ∈ query.evaluateIn index all ↔ Sat tokens query := by
  induction query with
  | phrase t => exact phrase_spelled spells ordered t
  | node operator left right leftIH rightIH =>
    cases operator <;>
      simp [Query.evaluateIn, Operator.apply, Operator.unionComplement, Sat, leftIH, rightIH, listed]

theorem phrase_in_documents {phrase : Text} (member : doc ∈ Phrase.documents index phrase) :
    doc ∈ index.documents := by
  unfold Phrase.documents at member
  split at member
  · exact absurd member DocSet.not_mem_empty
  · exact documents_of_term member
  · exact documents_of_term (DocSet.mem_filter.mp member).1

/-- A query selects documents of the index only. -/
theorem evaluate_in_documents {query : Query} (member : doc ∈ query.evaluate index) :
    doc ∈ index.documents := by
  unfold Query.evaluate at member
  induction query with
  | phrase t => exact phrase_in_documents member
  | node operator left right leftIH rightIH =>
    cases operator <;>
      simp only [Query.evaluateIn, Operator.apply, Operator.unionComplement, DocSet.mem_diff,
        DocSet.mem_union, DocSet.mem_inter] at member
    case andNot => exact leftIH member.1
    case butNot => exact leftIH member.1
    case orNot => exact member.elim leftIH And.left
    case and => exact leftIH member.1
    case or => exact member.elim leftIH rightIH

/-! ## An index of documents -/

theorem documents_ordered (documents : List (DocId × Text)) :
    AllStored Ordered (Index.ofDocuments documents).postings :=
  of_occurrences_ordered _

private theorem text_unique {documents : List (DocId × Text)} {t other : Text}
    (distinct : (documents.map Prod.fst).Nodup) (here : (doc, t) ∈ documents)
    (there : (doc, other) ∈ documents) : other = t := by
  have found := (Assoc.find?_eq_some_iff distinct).mpr here
  rw [(Assoc.find?_eq_some_iff distinct).mpr there] at found
  exact Option.some.inj found

/-- An index of documents spells each of them. -/
theorem documents_spelled {documents : List (DocId × Text)} {t : Text}
    (distinct : (documents.map Prod.fst).Nodup) (member : (doc, t) ∈ documents) :
    Spells (Index.ofDocuments documents) doc (Analysis.analyze t) := by
  intro term position
  rw [mem_positions_of_documents]
  constructor
  · rintro ⟨other, there, place⟩
    rwa [text_unique distinct member there] at place
  · exact fun place => ⟨t, member, place⟩

/-- A document is in the index of documents exactly if some text of that name has a word. -/
theorem mem_documents_of_documents {documents : List (DocId × Text)} :
    doc ∈ (Index.ofDocuments documents).documents ↔
      ∃ t, (doc, t) ∈ documents ∧ Analysis.analyze t ≠ [] := by
  simp only [mem_documents, ← mem_documents_containing,
    containing_iff_position (documents_ordered documents), mem_positions_of_documents]
  constructor
  · rintro ⟨term, position, t, member, k, _, found⟩
    exact ⟨t, member, List.ne_nil_of_mem (List.mem_of_getElem? found)⟩
  · rintro ⟨t, member, nonempty⟩
    obtain ⟨term, listed⟩ := List.exists_mem_of_ne_nil _ nonempty
    obtain ⟨k, found⟩ := List.mem_iff_getElem?.mp listed
    exact ⟨term, k, t, member, k, rfl, found⟩

/-- The engine over an index of documents selects exactly those documents that have words and whose
words are what the query asks for. -/
theorem evaluation_is_direct_scan (documents : List (DocId × Text))
    (distinct : (documents.map Prod.fst).Nodup) (query : Text) (doc : DocId) :
    doc ∈ (Engine.ofIndex (Index.ofDocuments documents)).evaluate query ↔
      ∃ t, (doc, t) ∈ documents ∧ Analysis.analyze t ≠ [] ∧
        Sat (Analysis.analyze t) (Query.parse (Text.lower query)) := by
  change doc ∈ (Query.parse (Text.lower query)).evaluate (Index.ofDocuments documents) ↔ _
  constructor
  · intro member
    have listed := evaluate_in_documents member
    obtain ⟨t, given, nonempty⟩ := mem_documents_of_documents.mp listed
    exact ⟨t, given, nonempty, (evaluate_spelled (documents_spelled distinct given)
      (documents_ordered documents) listed _).mp member⟩
  · rintro ⟨t, given, nonempty, sat⟩
    have listed := mem_documents_of_documents.mpr ⟨t, given, nonempty⟩
    exact (evaluate_spelled (documents_spelled distinct given)
      (documents_ordered documents) listed _).mpr sat

/-- The first place of a pair decides: only the second document has all three words in a row there,
though the first one has them in a row further on; the document without words is not selected even by
a complement. -/
theorem first_pair_decides :
    ([("a".toList, "x y x y z".toList), ("b".toList, "X Y z".toList), ("c".toList, " ".toList)].map
        Prod.fst).Nodup ∧
      ∀ doc, doc ∈ (Engine.ofIndex (Index.ofDocuments [("a".toList, "x y x y z".toList),
          ("b".toList, "X Y z".toList), ("c".toList, " ".toList)])).evaluate
            "x y z or not x y".toList ↔ doc = "b".toList := by
  have distinct : ([("a".toList, "x y x y z".toList), ("b".toList, "X Y z".toList),
      ("c".toList, " ".toList)].map Prod.fst).Nodup := by decide
  refine ⟨distinct, fun doc => (evaluation_is_direct_scan _ distinct _ doc).trans ⟨?_, ?_⟩⟩
  · rintro ⟨t, given, nonempty, sat⟩
    simp only [List.mem_cons, Prod.mk.injEq, List.not_mem_nil, or_false] at given
    rcases given with ⟨rfl, rfl⟩ | ⟨rfl, rfl⟩ | ⟨rfl, rfl⟩
    · exact absurd sat (by decide +kernel)
    · rfl
    · exact absurd nonempty (by decide +kernel)
  · rintro rfl
    exact ⟨"X Y z".toList, by simp, by decide +kernel, by decide +kernel⟩

end Concordance.DirectScan
