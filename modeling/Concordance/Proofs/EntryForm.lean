import Concordance.Index.Entry
import Concordance.Proofs.DecimalReading
import Concordance.Proofs.PostingContent

/-!
Entries that are written are read back, and every entry that is read could have been written: its name
is a word without semicolons, and its positions are some, ascending and not negative.
-/
namespace Concordance.EntryForm
open TextCuts DecimalReading PostingContent

-- Powers mean the same whatever else is imported.
attribute [local instance (high)] instPowNat

/-- Positions as an entry spells them: in order, and none negative. -/
structure Canonical (positions : List Int) : Prop where
  ordered : Ordered positions
  natural : ∀ position ∈ positions, 0 ≤ position

/-- Positions that are not too long to be read. -/
def Readable (positions : List Int) : Prop :=
  ∀ position ∈ positions, position < 10 ^ Integer.digitLimit

variable {doc raw t : Text} {positions : List Int}

/-! ## Lists of positions -/

private theorem mem_inserted {position : Int} (sorted : List Int) :
    position ∈ positions.foldl (fun sorted other => Positions.insert other sorted) sorted ↔
      position ∈ sorted ∨ position ∈ positions := by
  induction positions generalizing sorted with
  | nil => simp
  | cons first rest ih =>
    rw [List.foldl_cons, ih, Positions.mem_insert, List.mem_cons, or_left_comm, or_assoc]

theorem mem_of_list {position : Int} :
    position ∈ Positions.ofList positions ↔ position ∈ positions := by
  rw [Positions.ofList, mem_inserted]
  simp

private theorem inserted_ascending {sorted : List Int} (ascending : sorted.Pairwise (· < ·)) :
    (positions.foldl (fun sorted other => Positions.insert other sorted) sorted).Pairwise
      (· < ·) := by
  induction positions generalizing sorted with
  | nil => exact ascending
  | cons first rest ih => exact ih (Positions.pairwise_insert ascending)

theorem of_list_ordered (nonempty : positions ≠ []) : Ordered (Positions.ofList positions) where
  nonempty := by
    obtain ⟨position, member⟩ := List.exists_mem_of_ne_nil positions nonempty
    exact List.ne_nil_of_mem (mem_of_list.mpr member)
  ascending := inserted_ascending .nil

private theorem insert_last {position : Int} {sorted : List Int}
    (above : ∀ other ∈ sorted, other < position) :
    Positions.insert position sorted = sorted ++ [position] := by
  induction sorted with
  | nil => rfl
  | cons first rest ih =>
    obtain ⟨here, later⟩ := List.forall_mem_cons.mp above
    rw [Positions.insert, if_neg (by omega), if_neg (by omega), ih later]
    rfl

private theorem inserted_in_order {sorted : List Int}
    (ascending : (sorted ++ positions).Pairwise (· < ·)) :
    positions.foldl (fun sorted other => Positions.insert other sorted) sorted =
      sorted ++ positions := by
  induction positions generalizing sorted with
  | nil => simp
  | cons first rest ih =>
    have above : ∀ other ∈ sorted, other < first := fun other member =>
      (List.pairwise_append.mp ascending).2.2 other member first List.mem_cons_self
    rw [List.foldl_cons, insert_last above, ih (by simpa using ascending)]
    simp

/-- A list in ascending order is its own order. -/
theorem of_list_ascending (ascending : positions.Pairwise (· < ·)) :
    Positions.ofList positions = positions := inserted_in_order ascending

/-! ## Names -/

/-- A name is something with a colon after it. -/
theorem is_name_iff {run : Text} :
    Entry.isName run = true ↔ ∃ doc, doc ≠ [] ∧ run = doc ++ [':'] := by
  simp only [Entry.isName, Bool.and_eq_true, decide_eq_true_eq, beq_iff_eq]
  constructor
  · rintro ⟨long, last⟩
    obtain ⟨doc, rfl⟩ := List.getLast?_eq_some_iff.mp last
    refine ⟨doc, ?_, rfl⟩
    rintro rfl
    simp at long
  · rintro ⟨doc, some, rfl⟩
    have length := List.length_pos_iff.mpr some
    exact ⟨by rw [List.length_append]; exact Nat.succ_le_succ length, by simp⟩

private theorem colon_ink : Text.isBlank ':' = false := by decide

/-- A word with a colon after it is a word. -/
theorem word_colon (named : IsWord doc) : IsWord (doc ++ [':']) :=
  ⟨by simp, List.forall_mem_append.mpr ⟨named.ink, by simp [colon_ink]⟩⟩

theorem cut_blanks {gap : Text} (all : ∀ c ∈ gap, Text.isBlank c = true) (t : Text) :
    Entry.cut? (gap ++ t) = Entry.cut? t := by
  have same : (gap ++ t).dropWhile Text.isBlank = t.dropWhile Text.isBlank :=
    List.dropWhile_append_of_pos all
  rw [Entry.cut?.eq_def (gap ++ t), Entry.cut?.eq_def t]
  split <;> split <;> simp_all

theorem cut_of_blanks {gap : Text} (all : ∀ c ∈ gap, Text.isBlank c = true) :
    Entry.cut? gap = none := by
  rw [← List.append_nil gap, cut_blanks all, Entry.cut?]
  rfl

/-- A word is the name of an entry, or the search goes on behind it. -/
theorem cut_word {word rest : Text} (proper : IsWord word)
    (apart : ∀ c ∈ rest.head?, Text.isBlank c = true) :
    Entry.cut? (word ++ rest) =
      if Entry.isName word && !(rest.dropWhile Text.isBlank).isEmpty then
        some (word.dropLast, (rest.dropWhile Text.isBlank).takeWhile (· != '\n'))
      else Entry.cut? rest := by
  obtain ⟨c, tail, rfl⟩ := List.exists_cons_of_ne_nil proper.nonempty
  obtain ⟨-, inside⟩ := List.forall_mem_cons.mp (ink_of_word proper)
  have stop := ink_stops apart
  have first : ((c :: tail) ++ rest).dropWhile Text.isBlank = c :: (tail ++ rest) :=
    List.dropWhile_cons_of_neg (by simp [proper.ink c List.mem_cons_self])
  rw [Entry.cut?]
  split
  · rename_i none
    rw [first] at none
    cases none
  · rename_i other others found
    rw [first] at found
    cases found
    rw [take_while_exact inside stop, drop_while_exact inside stop]

/-- The name of an entry ends at the colon before its first blank. -/
theorem cut_named (named : IsWord doc) (nonempty : raw ≠ [])
    (ink : ∀ c ∈ raw, Text.isBlank c = false) :
    Entry.cut? (doc ++ ':' :: ' ' :: raw) = some (doc, raw) := by
  have name : Entry.isName (doc ++ [':']) = true := is_name_iff.mpr ⟨doc, named.nonempty, rfl⟩
  have next : (' ' :: raw).dropWhile Text.isBlank = raw := by
    rw [List.dropWhile_cons_of_pos space_is_blank,
      drop_while_of_head fun other found => ink other (List.mem_of_head? found)]
  have inLine : ∀ other ∈ raw, (other != '\n') = true := by
    intro other member
    rw [bne_iff_ne]
    rintro rfl
    cases ink '\n' member
  have line : raw.takeWhile (· != '\n') = raw := by
    rw [← List.append_nil raw, List.takeWhile_append_of_pos inLine, List.takeWhile_nil]
  rw [List.append_cons, cut_word (word_colon named) (by simp [space_is_blank]), next,
    line]
  simp [name, nonempty]

/-- The name of an entry is a word, made of characters of the text. -/
theorem cut_sound (cut : Entry.cut? t = some (doc, raw)) : IsWord doc ∧ ∀ c ∈ doc, c ∈ t := by
  fun_induction Entry.cut? t with
  | case1 => cases cut
  | case2 t c rest atWord run after next accepted =>
    simp only [Option.some.injEq, Prod.mk.injEq] at cut
    obtain ⟨rfl, -⟩ := cut
    have named : Entry.isName run = true := (Bool.and_eq_true_iff.mp accepted).1
    simp only [Entry.isName, Bool.and_eq_true, decide_eq_true_eq] at named
    refine ⟨⟨?_, fun other member => ?_⟩, fun other member => ?_⟩
    · intro empty
      have length := congrArg List.length empty
      rw [List.length_dropLast, List.length_nil] at length
      omega
    · exact (run_is_word atWord).ink other (List.dropLast_subset run member)
    · have inRun : other ∈ run := List.dropLast_subset run member
      apply List.dropWhile_subset Text.isBlank
      rw [atWord]
      exact List.cons_subset_cons c (List.takeWhile_subset Text.isInk) inRun
  | case3 t c rest atWord run after next _ ih =>
    obtain ⟨proper, within⟩ := ih cut
    refine ⟨proper, fun other member => ?_⟩
    apply List.dropWhile_subset Text.isBlank
    rw [atWord]
    exact List.mem_cons_of_mem c (List.dropWhile_subset Text.isInk (within other member))

/-! ## Positions -/

/-- Positions as they stand in an entry. -/
def spelled (positions : List Int) : Text := Text.join [','] (positions.map Integer.decimal)

private theorem decimal_digit {position : Int} (natural : 0 ≤ position) :
    ∀ c ∈ Integer.decimal position, c.isDigit = true := by
  rw [decimal_of_natural natural]
  exact decimal_nat_digit _

/-- Spelled positions are digits and commas. -/
theorem mem_spelled (canonical : Canonical positions) {c : Char} (member : c ∈ spelled positions) :
    c = ',' ∨ c.isDigit = true := by
  cases mem_join member with
  | inl comma => exact .inl (List.mem_singleton.mp comma)
  | inr inside =>
    obtain ⟨piece, listed, inPiece⟩ := inside
    obtain ⟨position, there, rfl⟩ := List.mem_map.mp listed
    exact .inr (decimal_digit (canonical.natural position there) c inPiece)

theorem spelled_ink (canonical : Canonical positions) :
    ∀ c ∈ spelled positions, Text.isBlank c = false := by
  intro c member
  obtain rfl | digit := mem_spelled canonical member
  · decide
  · exact digit_not_blank digit

private theorem read_spellings (natural : ∀ position ∈ positions, 0 ≤ position)
    (readable : Readable positions) :
    (positions.map Integer.decimal).mapM Integer.read? = some positions := by
  induction positions with
  | nil => rfl
  | cons position rest ih =>
    obtain ⟨here, later⟩ := List.forall_mem_cons.mp natural
    obtain ⟨short, shorter⟩ := List.forall_mem_cons.mp readable
    simp [read_decimal here short, ih later shorter]

/-- Pieces are read together exactly if each of them is read. -/
theorem read_pieces_iff {pieces : List Text} :
    pieces.mapM Integer.read? = some positions ↔
      pieces.map Integer.read? = positions.map some := by
  induction pieces generalizing positions with
  | nil =>
    constructor
    · intro read
      cases read
      rfl
    · intro read
      rw [List.map_eq_nil_iff.mp read.symm]
      rfl
  | cons piece rest ih =>
    simp only [List.mapM_cons, bind, Option.bind_eq_some_iff, pure, Option.some.injEq, ih]
    constructor
    · rintro ⟨position, here, others, later, rfl⟩
      rw [List.map_cons, List.map_cons, here, later]
    · intro read
      obtain ⟨position, others, rfl, here, later⟩ := List.map_eq_cons_iff.mp read.symm
      exact ⟨position, here.symm, others, later.symm, rfl⟩

/-- Cutting spelled positions at the commas gives the spelling of each. -/
private theorem pieces_spelled (canonical : Canonical positions) :
    Entry.pieces (spelled positions) = positions.map Integer.decimal := by
  obtain ⟨first, rest, rfl⟩ := List.exists_cons_of_ne_nil canonical.ordered.nonempty
  have digits : ∀ position ∈ first :: rest, ∀ c ∈ Integer.decimal position, c.isDigit = true :=
    fun position member => decimal_digit (canonical.natural position member)
  have free : ∀ piece ∈ (first :: rest).map Integer.decimal, ',' ∉ piece := by
    intro piece listed comma
    obtain ⟨position, member, rfl⟩ := List.mem_map.mp listed
    exact absurd (digits position member ',' comma) (by decide)
  unfold Entry.pieces spelled
  rw [List.map_cons, split_join_plain free]
  dsimp only
  rw [List.map_map]
  refine congrArg _ (List.map_congr_left fun position member => ?_)
  exact drop_while_of_head fun c found =>
    digit_not_blank (digits position (by simp [member]) c (List.mem_of_head? found))

private theorem spelled_nonempty (canonical : Canonical positions) : spelled positions ≠ [] := by
  obtain ⟨first, rest, rfl⟩ := List.exists_cons_of_ne_nil canonical.ordered.nonempty
  have some : Integer.decimal first ≠ [] := by
    rw [decimal_of_natural (canonical.natural first (by simp))]
    exact decimal_nat_nonempty _
  cases rest with
  | nil => exact some
  | cons next rest => simp [spelled, Text.join, some]

private theorem pieces_nonempty (t : Text) : Entry.pieces t ≠ [] := by
  unfold Entry.pieces
  split
  · rename_i none
    exact absurd none (Text.splitOn_ne_nil ',' t)
  · exact List.cons_ne_nil _ _

/-- Spelled positions are read as they were written. -/
theorem read_spelled (canonical : Canonical positions) (readable : Readable positions) :
    Entry.positions? (spelled positions) = some positions := by
  have bare : Text.trim (spelled positions) = spelled positions :=
    trim_of_ends (fun c found => spelled_ink canonical c (List.mem_of_head? found))
      fun c found => spelled_ink canonical c (List.mem_of_getLast? found)
  have natural : positions.any (· < 0) = false := by
    simpa using canonical.natural
  unfold Entry.positions?
  rw [bare, pieces_spelled canonical, read_spellings canonical.natural readable]
  simp [natural, of_list_ascending canonical.ordered.ascending]

/-- Whatever positions are read are canonical, and not too long to be read again. -/
theorem positions_sound (read : Entry.positions? raw = some positions) :
    Canonical positions ∧ Readable positions := by
  unfold Entry.positions? at read
  split at read
  · cases read
  · rename_i values found
    split at read
    · cases read
    · rename_i natural
      cases read
      have each := read_pieces_iff.mp found
      have nonempty : values ≠ [] := by
        rintro rfl
        exact pieces_nonempty _ (List.map_eq_nil_iff.mp each)
      refine ⟨⟨of_list_ordered nonempty, fun position member => ?_⟩, fun position member => ?_⟩
      · have listed := mem_of_list.mp member
        simp only [List.any_eq_true, decide_eq_true_eq, not_exists, not_and] at natural
        exact Int.not_lt.mp (natural position listed)
      · have read := List.mem_map_of_mem (f := some) (mem_of_list.mp member)
        rw [← each] at read
        obtain ⟨piece, _, spelling⟩ := List.mem_map.mp read
        exact read_below spelling

/-! ## Entries -/

private theorem write_form : Entry.write doc positions = doc ++ ':' :: ' ' :: spelled positions := by
  simp [Entry.write, spelled]

/-- Around its name an entry has a colon, a space, digits and commas. -/
theorem mem_write (canonical : Canonical positions) {c : Char}
    (member : c ∈ Entry.write doc positions) :
    c ∈ doc ∨ c = ':' ∨ c = ' ' ∨ c = ',' ∨ c.isDigit = true := by
  rw [write_form] at member
  obtain inName | colon | space | inPositions := by simpa using member
  · exact .inl inName
  · exact .inr (.inl colon)
  · exact .inr (.inr (.inl space))
  · exact .inr (.inr (.inr (mem_spelled canonical inPositions)))

private theorem write_head (named : IsWord doc) :
    ∀ c ∈ (Entry.write doc positions).head?, Text.isBlank c = false := by
  obtain ⟨first, tail, rfl⟩ := List.exists_cons_of_ne_nil named.nonempty
  intro c found
  rw [write_form] at found
  cases found
  exact named.ink first List.mem_cons_self

private theorem write_last (canonical : Canonical positions) :
    ∀ c ∈ (Entry.write doc positions).getLast?, Text.isBlank c = false := by
  intro c found
  have last := List.getLast?_eq_some_getLast (spelled_nonempty canonical)
  have regroup : Entry.write doc positions = (doc ++ [':', ' ']) ++ spelled positions := by
    simp [write_form]
  rw [regroup, List.getLast?_append, last, Option.some_or, ← last] at found
  exact spelled_ink canonical c (List.mem_of_getLast? found)

/-- An entry is read as it was written, also after blanks. -/
theorem read_write {margin : Text} (blank : ∀ c ∈ margin, Text.isBlank c = true)
    (named : IsWord doc) (canonical : Canonical positions) (readable : Readable positions) :
    Entry.read? (margin ++ Entry.write doc positions) = some ⟨doc, positions⟩ := by
  have nonempty := spelled_nonempty canonical
  have bare : Text.trim (margin ++ Entry.write doc positions) = Entry.write doc positions := by
    rw [Text.trim, List.dropWhile_append_of_pos blank]
    exact trim_of_ends (write_head named) (write_last canonical)
  unfold Entry.read?
  rw [bare, write_form, cut_named named nonempty (spelled_ink canonical)]
  simp [read_spelled canonical readable]

/-- Every entry that is read can be written: its name is a word of the segment. -/
theorem read_sound {entry : Entry} (read : Entry.read? t = some entry) :
    IsWord entry.doc ∧ (∀ c ∈ entry.doc, c ∈ t) ∧ Canonical entry.positions ∧
      Readable entry.positions := by
  unfold Entry.read? at read
  split at read
  · cases read
  · rename_i doc raw cut
    obtain ⟨positions, found, rfl⟩ := Option.map_eq_some_iff.mp read
    obtain ⟨word, within⟩ := cut_sound cut
    obtain ⟨canonical, readable⟩ := positions_sound found
    exact ⟨word, fun c member => trim_within c (within c member), canonical, readable⟩

end Concordance.EntryForm
