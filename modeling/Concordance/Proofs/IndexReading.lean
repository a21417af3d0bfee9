import Concordance.Index.Format
import Concordance.Proofs.PostingContent

/-!
What reading lines amounts to. The entries that the lines hold are entered one after the other, and of
several entries for one term and document the first one stays; lines that are too short and malformed
entries leave no trace in the index.
-/
namespace Concordance.IndexReading
open PostingContent

/-- The entry in a segment, with the term whose line it is on. -/
def inSegment? (term segment : Text) : Option (Text × Entry) :=
  (Entry.read? segment).map (term, ·)

/-- The entries on a line, each with the term of the line. -/
def entriesOf (line : Text) : List (Text × Entry) :=
  match Text.splitOn '\t' (Text.chomp line) with
  | term :: details :: _ => (Text.splitOn ';' details).filterMap (inSegment? term)
  | _ => []

def enterAll (table : Assoc Text Postings) (found : List (Text × Entry)) : Assoc Text Postings :=
  found.foldl (fun table (term, entry) => Reading.enter table term entry) table

/-- The positions that the first entry for a term and a document has. -/
def first? (found : List (Text × Entry)) (term : Text) (doc : DocId) : Option (List Int) :=
  (found.find? fun (other, entry) => other = term ∧ entry.doc = doc).map fun (_, entry) =>
    entry.positions

variable {table : Assoc Text Postings} {found : List (Text × Entry)} {term : Text} {doc : DocId}
  {positions : List Int}

/-! ## Lines -/

private theorem segments_postings (term : Text) (segments : List Text) (reading : Reading) :
    (segments.foldl (Reading.segment term) reading).postings =
      enterAll reading.postings (segments.filterMap (inSegment? term)) := by
  induction segments generalizing reading with
  | nil => rfl
  | cons segment rest ih =>
    rw [List.foldl_cons, ih, Reading.segment]
    cases read : Entry.read? segment with
    | none => simp [inSegment?, read]
    | some entry => simp [inSegment?, read, enterAll]

/-- A line changes the postings by its entries and by nothing else. -/
theorem line_postings (reading : Reading) (line : Text) :
    (reading.line line).postings = enterAll reading.postings (entriesOf line) := by
  unfold Reading.line entriesOf
  match Text.splitOn '\t' (Text.chomp line) with
  | [] => rfl
  | [_] => rfl
  | term :: details :: _ => exact segments_postings term _ _

/-- An entry on a line comes from a segment of the field after the term. -/
theorem mem_entries_of {line : Text} {entry : Entry} (member : (term, entry) ∈ entriesOf line) :
    term ∈ Text.splitOn '\t' (Text.chomp line) ∧
      ∃ details ∈ Text.splitOn '\t' (Text.chomp line), ∃ segment ∈ Text.splitOn ';' details,
        Entry.read? segment = some entry := by
  unfold entriesOf at member
  split at member
  · rename_i fields
    obtain ⟨segment, listed, read⟩ := List.mem_filterMap.mp member
    obtain ⟨_, found, same⟩ := Option.map_eq_some_iff.mp read
    cases same
    rw [fields]
    exact ⟨by simp, _, by simp, segment, listed, found⟩
  · cases member

theorem enter_append (table : Assoc Text Postings) (before after : List (Text × Entry)) :
    enterAll table (before ++ after) = enterAll (enterAll table before) after :=
  List.foldl_append

private theorem lines_postings (lines : List Text) (reading : Reading) :
    (lines.foldl Reading.line reading).postings =
      enterAll reading.postings (lines.flatMap entriesOf) := by
  induction lines generalizing reading with
  | nil => rfl
  | cons line rest ih =>
    rw [List.foldl_cons, ih, line_postings, List.flatMap_cons, enter_append]

/-- Reading lines is entering what they hold. -/
theorem reading_postings (lines : List Text) :
    (Reading.ofLines lines).postings = enterAll ∅ (lines.flatMap entriesOf) :=
  lines_postings lines Reading.start

/-! ## First entries -/

/-- An entry gives positions to its own term and document only, and only if there were none. -/
theorem stored_enter (other : Text) (entry : Entry) :
    stored? (Reading.enter table other entry) term doc =
      if other = term ∧ entry.doc = doc then
        some ((stored? table term doc).getD entry.positions)
      else stored? table term doc :=
  (stored_update ..).trans
    (ite_congr (propext (and_congr eq_comm eq_comm)) (fun _ => rfl) fun _ => rfl)

theorem first_cons (other : Text) (entry : Entry) :
    first? ((other, entry) :: found) term doc =
      if other = term ∧ entry.doc = doc then some entry.positions else first? found term doc := by
  unfold first?
  by_cases same : other = term ∧ entry.doc = doc
  · rw [List.find?_cons_of_pos (by simp [same]), if_pos same, Option.map_some]
  · rw [List.find?_cons_of_neg (by simpa using same), if_neg same]

/-- After entries have been entered, a pair has the positions it had before, or else those of its
first entry. -/
theorem stored_entered :
    stored? (enterAll table found) term doc =
      (stored? table term doc).or (first? found term doc) := by
  induction found generalizing table with
  | nil => simp [enterAll, first?]
  | cons pair rest ih =>
    obtain ⟨other, entry⟩ := pair
    have step : enterAll table ((other, entry) :: rest) =
      enterAll (Reading.enter table other entry) rest := rfl
    rw [step, ih, stored_enter, first_cons]
    split
    · cases stored? table term doc <;> rfl
    · rfl

/-- The index of lines stores the first entry of every term and document. -/
theorem stored_of_lines (lines : List Text) (term : Text) (doc : DocId) :
    stored? (Index.ofLines lines).postings term doc =
      first? (lines.flatMap entriesOf) term doc := by
  rw [Index.ofLines, Reading.index, stored_of_postings, reading_postings, stored_entered]
  rfl

theorem mem_of_first (held : first? found term doc = some positions) :
    (term, ⟨doc, positions⟩) ∈ found := by
  obtain ⟨⟨other, entry⟩, here, rfl⟩ := Option.map_eq_some_iff.mp held
  obtain ⟨rfl, rfl⟩ : other = term ∧ entry.doc = doc := by simpa using List.find?_some here
  exact List.mem_of_find?_eq_some here

/-- What an index of lines stores is an entry on one of the lines. -/
theorem line_of_stored {lines : List Text}
    (held : stored? (Index.ofLines lines).postings term doc = some positions) :
    ∃ line ∈ lines, (term, ⟨doc, positions⟩) ∈ entriesOf line := by
  rw [stored_of_lines] at held
  exact List.mem_flatMap.mp (mem_of_first held)

/-- Where all entries of a pair have the same positions, these are its first ones. -/
theorem first_of_mem (listed : (term, ⟨doc, positions⟩) ∈ found)
    (only : ∀ others, (term, ⟨doc, others⟩) ∈ found → others = positions) :
    first? found term doc = some positions := by
  cases held : first? found term doc with
  | none =>
    have absent := List.find?_eq_none.mp (Option.map_eq_none_iff.mp held) _ listed
    simp at absent
  | some others => rw [only others (mem_of_first held)]

end Concordance.IndexReading
