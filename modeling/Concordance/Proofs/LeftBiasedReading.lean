import Mathlib.Data.List.Induction
import Concordance.Proofs.IndexReading
import Concordance.Proofs.LineCuts

/-!
Reading lines one after the other is a union in which what was read first stays. This holds of the
positions and of the order in which terms and documents are kept, so the index of some lines followed by
others is known from the two indexes; and what is skipped on the way leaves no trace in either.
-/
namespace Concordance.LeftBiasedReading
open TextCuts LineCuts PostingContent IndexReading

/-! ## Keys in order -/

section
variable {κ υ : Type} [DecidableEq κ]

/-- Some keys, followed by those of others that are new. -/
def followedBy (first second : List κ) : List κ := first ++ second.filter fun key => key ∉ first

private theorem mem_followed {first second : List κ} {key : κ} :
    key ∈ followedBy first second ↔ key ∈ first ∨ key ∈ second := by
  by_cases known : key ∈ first <;> simp [followedBy, known]

/-- Updating the second table of a union is updating the union. -/
private theorem keys_update_followed {first second whole : Assoc κ υ}
    (merged : whole.keys = followedBy first.keys second.keys) (key : κ) (f g : Option υ → υ) :
    (whole.update key f).keys = followedBy first.keys (second.update key g).keys := by
  rw [Assoc.keys_update, Assoc.keys_update, merged]
  simp only [mem_followed]
  by_cases inSecond : key ∈ second.keys
  · simp [inSecond]
  · by_cases inFirst : key ∈ first.keys
    · simp [inFirst, inSecond, followedBy]
    · simp [inFirst, inSecond, followedBy]

end

variable {table : Assoc Text Postings} {term segment : Text} {doc : DocId}

/-- The documents of a term in the order in which they are kept. -/
def documentsIn (table : Assoc Text Postings) (term : Text) : List DocId :=
  ((table.get? term).getD ∅).keys

private theorem get_enter (table : Assoc Text Postings) (term other : Text) (entry : Entry) :
    (Reading.enter table other entry).get? term =
      if term = other then some (((table.get? term).getD ∅).add entry.doc entry.positions)
      else table.get? term := by
  unfold Reading.enter
  rw [Assoc.get?_update]
  split
  · rename_i same
    rw [same]
  · rfl

/-- Entering entries into a table is a union of the table and what the entries make by themselves. -/
private theorem entered_followed (table : Assoc Text Postings) (found : List (Text × Entry)) :
    (enterAll table found).keys = followedBy table.keys (enterAll ∅ found).keys ∧
      ∀ term, documentsIn (enterAll table found) term =
        followedBy (documentsIn table term) (documentsIn (enterAll ∅ found) term) := by
  -- The last entry comes into the union and into the table of its own in the same way.
  induction found using List.reverseRecOn with
  | nil =>
    have alone : ∀ keys : List Text, keys = followedBy keys [] := fun keys =>
      (List.append_nil keys).symm
    exact ⟨alone _, fun term => alone _⟩
  | append_singleton found last ih =>
    obtain ⟨other, entry⟩ := last
    rw [enter_append, enter_append]
    constructor
    · exact keys_update_followed ih.1 other _ _
    · intro term
      change ((Reading.enter _ other entry).get? term |>.getD ∅).keys =
        followedBy _ ((Reading.enter _ other entry).get? term |>.getD ∅).keys
      rw [get_enter, get_enter]
      split
      · exact keys_update_followed (ih.2 term) entry.doc _ _
      · exact ih.2 term

/-! ## Indexes -/

private theorem add_occupied (docs : Postings) (doc : DocId) (positions : List Int) :
    (docs.add doc positions).entries ≠ [] := by
  intro none
  have listed : doc ∈ (docs.add doc positions).keys :=
    Assoc.contains_iff_mem_keys.mp (Assoc.contains_update.mpr (.inl rfl))
  rw [Assoc.keys, none] at listed
  cases listed

private theorem entered_occupied (table : Assoc Text Postings) (found : List (Text × Entry))
    (occupied : ∀ term docs, table.get? term = some docs → docs.entries ≠ []) :
    ∀ term docs, (enterAll table found).get? term = some docs → docs.entries ≠ [] := by
  induction found generalizing table with
  | nil => exact occupied
  | cons pair rest ih =>
    obtain ⟨other, entry⟩ := pair
    apply ih
    intro term docs held
    rw [get_enter] at held
    split at held
    · cases held
      exact add_occupied _ _ _
    · exact occupied term docs held

/-- The index of lines is what their entries make; each term that is entered has a document. -/
theorem postings_of_lines (lines : List Text) :
    (Index.ofLines lines).postings = enterAll ∅ (lines.flatMap entriesOf) := by
  have occupied : ∀ entry ∈ (enterAll ∅ (lines.flatMap entriesOf)).entries,
      (!entry.2.entries.isEmpty) = true := by
    rintro ⟨term, docs⟩ listed
    have held := Assoc.get?_eq_some_iff.mpr listed
    simpa using entered_occupied ∅ _ (fun _ _ none => by cases none) term docs held
  rw [Index.ofLines, Reading.index, reading_postings]
  exact Assoc.filterValues_of_all (p := fun docs : Postings => !docs.entries.isEmpty) occupied

/-- Lines with the same entries in the same order make the same index. -/
theorem of_lines_congr {lines others : List Text}
    (same : lines.flatMap entriesOf = others.flatMap entriesOf) :
    Index.ofLines lines = Index.ofLines others := by
  unfold Index.ofLines Reading.index
  rw [reading_postings, reading_postings, same]

/-- An index is the union of two others in which the first one comes first: it has the first one's
positions where there are any, and keeps its order, with what is new in the second one after it. -/
structure Union (first second whole : Index) : Prop where
  stored : ∀ term doc, stored? whole.postings term doc =
    (stored? first.postings term doc).or (stored? second.postings term doc)
  terms : whole.terms = followedBy first.terms second.terms
  documents : ∀ term, (whole.postingsOf term).keys =
    followedBy (first.postingsOf term).keys (second.postingsOf term).keys

theorem union_of_lines (lines others : List Text) :
    Union (Index.ofLines lines) (Index.ofLines others) (Index.ofLines (lines ++ others)) := by
  have whole : (Index.ofLines (lines ++ others)).postings =
      enterAll (Index.ofLines lines).postings (others.flatMap entriesOf) := by
    rw [postings_of_lines, postings_of_lines, List.flatMap_append, enter_append]
  obtain ⟨terms, documents⟩ := entered_followed (Index.ofLines lines).postings
    (others.flatMap entriesOf)
  rw [← whole, ← postings_of_lines] at terms
  refine ⟨fun term doc => ?_, terms, fun term => ?_⟩
  · rw [whole, stored_entered, stored_of_lines others]
  · have listed := documents term
    rw [← whole, ← postings_of_lines] at listed
    exact listed

/-- There is one union of two indexes at most. -/
theorem union_unique {first second whole other : Index} (union : Union first second whole)
    (another : Union first second other) : whole = other := by
  apply index_ext
  · rw [union.terms, another.terms]
  · intro term
    rw [union.documents, another.documents]
  · intro term doc
    rw [union.stored, another.stored]

/-! ## First segments -/

/-- The segments of a line, each with the field before the first tab; a line without a tab has none. -/
def segmentsOf (line : Text) : List (Text × Text) :=
  match Text.splitOn '\t' (Text.chomp line) with
  | term :: details :: _ => (Text.splitOn ';' details).map (term, ·)
  | _ => []

/-- The positions that a segment gives a term in a document, if it is on a line of the term and is an
entry for the document. -/
def given? (term : Text) (doc : DocId) : Text × Text → Option (List Int)
  | (other, segment) =>
    if other = term then
      ((Entry.read? segment).filter fun entry => entry.doc = doc).map Entry.positions
    else none

private theorem rejected_not_entered {segment : Text} (rejected : Entry.read? segment = none)
    (term : Text) : inSegment? term segment = none := by
  rw [inSegment?, rejected, Option.map_none]

/-- The entry in a segment. -/
private def held? (pair : Text × Text) : Option (Text × Entry) := inSegment? pair.1 pair.2

private theorem entries_of_segments (line : Text) :
    entriesOf line = (segmentsOf line).filterMap held? := by
  unfold entriesOf segmentsOf
  match Text.splitOn '\t' (Text.chomp line) with
  | [] => rfl
  | [_] => rfl
  | term :: details :: _ =>
    rw [List.filterMap_map]
    rfl

private theorem first_of_segments (segments : List (Text × Text)) (term : Text) (doc : DocId) :
    first? (segments.filterMap held?) term doc = segments.findSome? (given? term doc) := by
  induction segments with
  | nil => rfl
  | cons pair rest ih =>
    obtain ⟨other, segment⟩ := pair
    rw [List.findSome?_cons, ← ih]
    cases read : Entry.read? segment with
    | none =>
      have skipped : held? (other, segment) = none := rejected_not_entered read other
      simp [skipped, given?, read]
    | some entry =>
      have entered : held? (other, segment) = some (other, entry) := by
        rw [held?, inSegment?, read, Option.map_some]
      rw [List.filterMap_cons_some entered, first_cons]
      by_cases ofTerm : other = term <;> by_cases ofDoc : entry.doc = doc <;>
        simp [given?, read, ofTerm, ofDoc, Option.filter]

/-- The positions of a term in a document are those of the first segment that gives any. -/
theorem stored_of_segments (lines : List Text) (term : Text) (doc : DocId) :
    stored? (Index.ofLines lines).postings term doc =
      (lines.flatMap segmentsOf).findSome? (given? term doc) := by
  rw [stored_of_lines, ← first_of_segments, List.filterMap_flatMap, funext entries_of_segments]

/-! ## What leaves no trace -/

/-- A line without a tab has no entries. -/
private theorem entries_of_short {short : Text} (noTab : '\t' ∉ short) : entriesOf short = [] := by
  have noField : '\t' ∉ Text.chomp short := fun member => noTab (drop_end_within short member)
  rw [entriesOf, split_of_free noField]

/-- A line by its term, its segments and what follows them. -/
def lineOf (term : Text) (segments : List Text) (rest : Text) : Text :=
  term ++ '\t' :: Text.join [';'] segments ++ rest

/-- Parts that a line can be cut into: what follows the segments is the end of the line or one more
field. -/
structure Parts (term : Text) (segments : List Text) (rest : Text) : Prop where
  term : '\t' ∉ term
  segments : ∀ segment ∈ segments, '\t' ∉ segment ∧ ';' ∉ segment
  closing : (∀ c ∈ rest, Text.isLineEnd c = true) ∨ ∃ more, rest = '\t' :: more

variable {rest : Text} {segments : List Text}

/-- A line end after the last segment is blank, so it does not change what the segments hold. -/
private theorem segments_of_chomp (term details : Text) :
    (Text.splitOn ';' (Text.chomp details)).filterMap (inSegment? term) =
      (Text.splitOn ';' details).filterMap (inSegment? term) := by
  obtain ⟨ending, ends, whole⟩ := drop_end_ending Text.isLineEnd details
  have free : ';' ∉ ending := fun member => absurd (ends _ member) (by decide)
  obtain ⟨front, last, alone, longer⟩ := split_lengthened free (Text.chomp details)
  have same : inSegment? term (last ++ ending) = inSegment? term last := by
    unfold inSegment? Entry.read?
    rw [trim_append fun c member => blank_of_line_end (ends c member)]
  have cut : Text.splitOn ';' details = front ++ [last ++ ending] := by
    rw [whole]
    exact longer
  rw [alone, cut, List.filterMap_append, List.filterMap_append, List.filterMap_cons, ← same]
  rfl

/-- The entries of a line are those of its segments. -/
private theorem entries_of_parts (parts : Parts term segments rest) :
    entriesOf (lineOf term segments rest) = segments.filterMap (inSegment? term) := by
  obtain ⟨termFree, segmentFree, closing⟩ := parts
  have noTab : '\t' ∉ Text.join [';'] segments := by
    intro member
    obtain mark | ⟨segment, listed, inside⟩ := mem_join member
    · exact absurd mark (by decide)
    · exact (segmentFree segment listed).1 inside
  have recut : (Text.splitOn ';' (Text.join [';'] segments)).filterMap (inSegment? term) =
      segments.filterMap (inSegment? term) := by
    cases segments with
    | nil =>
      have skipped : inSegment? term [] = none := rejected_not_entered (by decide +kernel) term
      exact List.filterMap_cons_none skipped
    | cons first others =>
      rw [split_join_plain fun segment listed => (segmentFree segment listed).2]
  have kept (after : Text) : Text.chomp (term ++ '\t' :: after) = term ++ '\t' :: Text.chomp after :=
    drop_end_kept (by decide) term after
  rw [lineOf, List.append_assoc, List.cons_append, entriesOf, kept, split_at_first termFree]
  -- A line end after the segments goes with the end of the line; a further field keeps it from them.
  cases closing with
  | inl ends =>
    have cut : Text.chomp (Text.join [';'] segments ++ rest) =
        Text.chomp (Text.join [';'] segments) := drop_end_append _ ends
    have noField : '\t' ∉ Text.chomp (Text.join [';'] segments) := fun member =>
      noTab (drop_end_within _ member)
    rw [cut, split_of_free noField]
    exact (segments_of_chomp term _).trans recut
  | inr field =>
    obtain ⟨more, rfl⟩ := field
    have cut : Text.chomp (Text.join [';'] segments ++ '\t' :: more) =
        Text.join [';'] segments ++ '\t' :: Text.chomp more := drop_end_kept (by decide) _ more
    rw [cut, split_at_first noTab]
    exact recut

/-- Every line that holds a tab has such parts. -/
private theorem parts_of_line {line : Text} (tab : '\t' ∈ line) :
    ∃ term segments rest, Parts term segments rest ∧ line = lineOf term segments rest := by
  -- The segments are cut from what stands between the first tab and the second one, if there is one.
  have cut {term details rest : Text} (termFree : '\t' ∉ term) (noTab : '\t' ∉ details)
      (closing : (∀ c ∈ rest, Text.isLineEnd c = true) ∨ ∃ more, rest = '\t' :: more) :
      ∃ segments, Parts term segments rest ∧ term ++ '\t' :: details ++ rest =
        lineOf term segments rest := by
    refine ⟨Text.splitOn ';' details, ⟨termFree, fun segment listed => ?_, closing⟩, ?_⟩
    · exact ⟨fun inside => noTab (piece_within listed '\t' inside), piece_free listed⟩
    · rw [lineOf, Text.join_splitOn]
  obtain ⟨term, after, rfl, termFree⟩ := List.eq_append_cons_of_mem tab
  by_cases second : '\t' ∈ after
  · obtain ⟨details, more, rfl, noTab⟩ := List.eq_append_cons_of_mem second
    obtain ⟨segments, parts, whole⟩ := cut termFree noTab (.inr ⟨more, rfl⟩)
    exact ⟨term, segments, _, parts, by simpa using whole⟩
  · have noEnd : ∀ c ∈ ([] : Text), Text.isLineEnd c = true := by simp
    obtain ⟨segments, parts, whole⟩ := cut termFree second (.inl noEnd)
    exact ⟨term, segments, [], parts, by simpa using whole⟩

/-- Lines without entries can be left out anywhere. -/
private theorem without_short (lines others : List Text) {short : Text} (noTab : '\t' ∉ short) :
    Index.ofLines (lines ++ short :: others) = Index.ofLines (lines ++ others) := by
  apply of_lines_congr
  simp [entries_of_short noTab]

/-- Segments that are no entries can be left out anywhere. -/
private theorem without_segment (lines others : List Text) {front back : List Text} {bad : Text}
    (parts : Parts term (front ++ bad :: back) rest) (rejected : Entry.read? bad = none) :
    Index.ofLines (lines ++ lineOf term (front ++ bad :: back) rest :: others) =
      Index.ofLines (lines ++ lineOf term (front ++ back) rest :: others) := by
  have fewer : Parts term (front ++ back) rest := by
    refine ⟨parts.term, fun segment listed => parts.segments segment ?_, parts.closing⟩
    cases List.mem_append.mp listed with
    | inl inFront => exact List.mem_append_left _ inFront
    | inr inBack => exact List.mem_append_right _ (List.mem_cons_of_mem bad inBack)
  have same : entriesOf (lineOf term (front ++ bad :: back) rest) =
      entriesOf (lineOf term (front ++ back) rest) := by
    rw [entries_of_parts parts, entries_of_parts fewer, List.filterMap_append,
      List.filterMap_append, List.filterMap_cons_none (rejected_not_entered rejected term)]
  apply of_lines_congr
  simp [same]

/-- The index of lines followed by others is the one union of the two indexes in which the first comes
first. A term has in a document the positions of the first segment that is an entry for the document on
a line of the term. Lines without a tab and segments that are no entries can be put in and left out
anywhere; and every line that holds a tab has the parts that are needed to say so. -/
theorem reading_is_left_biased (lines others : List Text) :
    (∀ whole, Union (Index.ofLines lines) (Index.ofLines others) whole ↔
        whole = Index.ofLines (lines ++ others)) ∧
      (∀ term doc,
        stored? (Index.ofLines lines).postings term doc =
          (lines.flatMap segmentsOf).findSome? (given? term doc) ∧
        (Index.ofLines lines).positionsOf term doc =
          ((lines.flatMap segmentsOf).findSome? (given? term doc)).getD []) ∧
      (∀ short, '\t' ∉ short →
        Index.ofLines (lines ++ short :: others) = Index.ofLines (lines ++ others)) ∧
      (∀ term front bad back rest, Parts term (front ++ bad :: back) rest →
        Entry.read? bad = none →
          Index.ofLines (lines ++ lineOf term (front ++ bad :: back) rest :: others) =
            Index.ofLines (lines ++ lineOf term (front ++ back) rest :: others)) ∧
      ∀ line, '\t' ∈ line →
        ∃ term segments rest, Parts term segments rest ∧ line = lineOf term segments rest := by
  refine ⟨fun whole => ⟨fun union => ?_, ?_⟩, fun term doc => ?_, fun short noTab => ?_, ?_,
    fun line tab => parts_of_line tab⟩
  · exact union_unique union (union_of_lines lines others)
  · rintro rfl
    exact union_of_lines lines others
  · have held := stored_of_segments lines term doc
    exact ⟨held, by rw [positions_stored, held]⟩
  · exact without_short lines others noTab
  · intro term front bad back rest parts rejected
    exact without_segment lines others parts rejected

/-- The first entry for a document has a negative number in it. -/
def refusedFirst : List Text := ["a\tx: 1,-1;x: 5;y: 2\n".toList]

/-- Entries for documents that are known already, and for a new one. -/
def laterLines : List Text := ["a\tx: 7;z: 0\textra".toList, "b\tx: 3".toList]

/-- A refused entry does not stand in the way of the next one for the same document, which does stand in
the way of all that follow; a line without a tab between them and a refused segment do nothing. -/
theorem refused_entry_gives_way :
    (Index.ofLines (refusedFirst ++ "no tab".toList :: laterLines)).positionsOf ['a'] ['x'] = [5] ∧
      (Index.ofLines (refusedFirst ++ laterLines)).terms = [['a'], ['b']] ∧
      Index.ofLines (refusedFirst ++ lineOf ['c'] ["x: 1".toList, "x".toList] ['\n'] :: laterLines) =
        Index.ofLines (refusedFirst ++ lineOf ['c'] ["x: 1".toList] ['\n'] :: laterLines) := by
  obtain ⟨union, -, withoutShort, withoutSegment, -⟩ := reading_is_left_biased refusedFirst laterLines
  obtain ⟨-, first, -⟩ := reading_is_left_biased (refusedFirst ++ laterLines) []
  have parts : Parts ['c'] (["x: 1".toList] ++ "x".toList :: []) ['\n'] :=
    ⟨by decide, by decide, .inl (by simp [Text.isLineEnd])⟩
  refine ⟨?_, ?_, ?_⟩
  · rw [withoutShort _ (by decide), (first _ _).2]
    decide +kernel
  · rw [((union _).mpr rfl).terms]
    decide +kernel
  · exact withoutSegment ['c'] ["x: 1".toList] "x".toList [] ['\n'] parts (by decide +kernel)

end Concordance.LeftBiasedReading
