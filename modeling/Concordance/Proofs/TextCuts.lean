import Concordance.Text.CharClass

/-!
Texts that are put together from pieces and cut up again. A cut finds the pieces exactly if no piece
holds the character at which it cuts, and trimming leaves a text alone whose ends are not blank.
-/
namespace Concordance.TextCuts

/-! ## Ends of a text -/

theorem drop_while_of_head {p : Char → Bool} {t : Text} (head : ∀ c ∈ t.head?, p c = false) :
    t.dropWhile p = t := by
  cases t with
  | nil => rfl
  | cons c rest => rw [List.dropWhile_cons_of_neg (by simp [head c rfl])]

theorem taken_all (p : Char → Bool) (t : Text) : ∀ c ∈ t.takeWhile p, p c = true :=
  List.all_eq_true.mp List.all_takeWhile

/-- Dropping stops at a character that is not to be dropped. -/
theorem dropped_head (p : Char → Bool) (t : Text) : ∀ c ∈ (t.dropWhile p).head?, p c = false := by
  intro c found
  have head := List.head?_dropWhile_not p t
  rw [found] at head
  exact head

/-- Taking characters stops at the first one that is not to be taken. -/
theorem take_while_exact {p : Char → Bool} {front back : Text} (all : ∀ c ∈ front, p c = true)
    (stop : ∀ c ∈ back.head?, p c = false) : (front ++ back).takeWhile p = front := by
  have none : back.takeWhile p = [] := by
    cases back with
    | nil => rfl
    | cons c rest => rw [List.takeWhile_cons_of_neg (by simp [stop c rfl])]
  rw [List.takeWhile_append_of_pos all, none, List.append_nil]

theorem drop_while_exact {p : Char → Bool} {front back : Text} (all : ∀ c ∈ front, p c = true)
    (stop : ∀ c ∈ back.head?, p c = false) : (front ++ back).dropWhile p = back := by
  rw [List.dropWhile_append_of_pos all, drop_while_of_head stop]

theorem drop_end_of_last {p : Char → Bool} {t : Text} (last : ∀ c ∈ t.getLast?, p c = false) :
    Text.dropEndWhile p t = t := by
  unfold Text.dropEndWhile
  rw [drop_while_of_head, List.reverse_reverse]
  simpa using last

/-- An ending all of whose characters are dropped is dropped as a whole. -/
theorem drop_end_append {p : Char → Bool} (t : Text) {ending : Text}
    (all : ∀ c ∈ ending, p c = true) :
    Text.dropEndWhile p (t ++ ending) = Text.dropEndWhile p t := by
  unfold Text.dropEndWhile
  rw [List.reverse_append, List.dropWhile_append_of_pos]
  simpa using all

/-- Dropping adds no characters. -/
theorem drop_end_within {p : Char → Bool} (t : Text) : Text.dropEndWhile p t ⊆ t := by
  intro c member
  exact List.mem_reverse.mp (List.dropWhile_subset p (List.mem_reverse.mp member))

/-- What is dropped is an ending of characters to drop. -/
theorem drop_end_ending (p : Char → Bool) (t : Text) :
    ∃ ending : Text, (∀ c ∈ ending, p c = true) ∧ t = Text.dropEndWhile p t ++ ending := by
  refine ⟨(t.reverse.takeWhile p).reverse, fun c member => ?_, ?_⟩
  · exact taken_all p _ c (List.mem_reverse.mp member)
  · unfold Text.dropEndWhile
    rw [← List.reverse_append, List.takeWhile_append_dropWhile, List.reverse_reverse]

/-- A character that is kept keeps what stands before it. -/
theorem drop_end_kept {p : Char → Bool} {c : Char} (kept : p c = false) (before after : Text) :
    Text.dropEndWhile p (before ++ c :: after) = before ++ c :: Text.dropEndWhile p after := by
  unfold Text.dropEndWhile
  rw [List.reverse_append, List.reverse_cons, List.append_assoc, List.dropWhile_append]
  split
  · rename_i none
    rw [List.isEmpty_iff.mp none]
    simp [kept]
  · simp

theorem trim_of_ends {t : Text} (head : ∀ c ∈ t.head?, Text.isBlank c = false)
    (last : ∀ c ∈ t.getLast?, Text.isBlank c = false) : Text.trim t = t := by
  unfold Text.trim
  rw [drop_while_of_head head, drop_end_of_last last]

/-- Trimming adds no characters. -/
theorem trim_within {t : Text} : ∀ c ∈ Text.trim t, c ∈ t := by
  intro c member
  unfold Text.trim Text.dropEndWhile at member
  have inner := List.dropWhile_subset Text.isBlank (List.mem_reverse.mp member)
  exact List.dropWhile_subset Text.isBlank (List.mem_reverse.mp inner)

/-- Trimming takes blanks from both ends. -/
theorem trim_between (t : Text) : ∃ front back : Text,
    (∀ c ∈ front, Text.isBlank c = true) ∧ (∀ c ∈ back, Text.isBlank c = true) ∧
      t = front ++ Text.trim t ++ back := by
  obtain ⟨back, backBlank, whole⟩ := drop_end_ending Text.isBlank (t.dropWhile Text.isBlank)
  refine ⟨t.takeWhile Text.isBlank, back, taken_all Text.isBlank t, backBlank, ?_⟩
  rw [List.append_assoc, Text.trim, ← whole, List.takeWhile_append_dropWhile]

theorem trim_is_part (t : Text) : Text.trim t <:+: t := by
  obtain ⟨front, back, _, _, whole⟩ := trim_between t
  exact ⟨front, back, whole.symm⟩

/-- A trimmed text does not begin with a blank. -/
theorem trim_head {t : Text} : ∀ c ∈ (Text.trim t).head?, Text.isBlank c = false := by
  let inner := t.dropWhile Text.isBlank
  have ahead : Text.trim t <+: inner := by
    unfold Text.trim Text.dropEndWhile
    have kept := List.reverse_prefix.mpr (List.dropWhile_suffix (l := inner.reverse) Text.isBlank)
    rwa [List.reverse_reverse] at kept
  intro c found
  have first : inner.head? = some c := by
    obtain ⟨tail, whole⟩ := ahead
    rw [← whole, List.head?_append, found]
    rfl
  exact dropped_head Text.isBlank t c first

/-- A trimmed text does not end in a blank. -/
theorem trim_last {t : Text} : ∀ c ∈ (Text.trim t).getLast?, Text.isBlank c = false := by
  unfold Text.trim Text.dropEndWhile
  rw [List.getLast?_reverse]
  exact dropped_head Text.isBlank (t.dropWhile Text.isBlank).reverse

/-- Nothing is left to trim of a trimmed text. -/
@[simp] theorem trim_trim (t : Text) : Text.trim (Text.trim t) = Text.trim t :=
  trim_of_ends trim_head trim_last

/-- Blanks at the end of a text are trimmed away with it. -/
theorem trim_append {ending : Text} (blank : ∀ c ∈ ending, Text.isBlank c = true) (t : Text) :
    Text.trim (t ++ ending) = Text.trim t := by
  unfold Text.trim
  rw [List.dropWhile_append]
  split
  · rename_i none
    have dropped := @List.dropWhile_append_of_pos _ _ ending [] blank
    rw [List.append_nil, List.dropWhile_nil] at dropped
    rw [List.isEmpty_iff.mp none, dropped]
  · exact drop_end_append _ blank

/-- Blanks in front of a text are trimmed away with it. -/
theorem trim_margin {margin : Text} (blank : ∀ c ∈ margin, Text.isBlank c = true) (t : Text) :
    Text.trim (margin ++ t) = Text.trim t := by
  rw [Text.trim, List.dropWhile_append_of_pos blank, Text.trim]

/-- Trimming leaves nothing of blanks only. -/
theorem blank_of_trim_nil {t : Text} (none : Text.trim t = []) : ∀ c ∈ t, Text.isBlank c = true := by
  obtain ⟨front, back, frontBlank, backBlank, whole⟩ := trim_between t
  rw [whole, none, List.append_nil]
  exact List.forall_mem_append.mpr ⟨frontBlank, backBlank⟩

/-! ## Cutting at a mark -/

section
variable {mark t before after : Text}

/-- A text is not cut exactly if it does not hold the mark. -/
theorem cut_none_iff : Text.cutAt? mark t = none ↔ ¬ mark <:+: t := by
  induction t with
  | nil => simp [Text.cutAt?]
  | cons c rest ih =>
    rw [Text.cutAt?, List.infix_cons_iff, ← List.isPrefixOf_iff_prefix]
    by_cases here : mark.isPrefixOf (c :: rest) = true
    · simp [here]
    · simp [here, ih]

private theorem short_of_mark (mark front back : Text) :
    front ++ mark.dropLast <+: front ++ mark ++ back :=
  ((List.prefix_append_right_inj front).mpr (List.dropLast_prefix mark)).trans
    (List.prefix_append _ back)

/-- A cut is made at the first occurrence of the mark: up to the last character of that one, the mark is
nowhere in the text. -/
theorem cut_first_iff (nonempty : mark ≠ []) : Text.cutAt? mark t = some (before, after) ↔
    t = before ++ mark ++ after ∧ ¬ mark <:+: before ++ mark.dropLast := by
  constructor
  · intro cut
    refine ⟨(Text.cutAt?_append cut).symm, ?_⟩
    induction t generalizing before after with
    | nil => simp_all [Text.cutAt?]
    | cons c rest ih =>
      rw [Text.cutAt?] at cut
      split at cut
      · cases cut
        intro inside
        have length := inside.length_le
        have some := List.length_pos_iff.mpr nonempty
        rw [List.nil_append, List.length_dropLast] at length
        omega
      · rename_i absent
        obtain ⟨⟨front, back⟩, later, same⟩ := Option.map_eq_some_iff.mp cut
        cases same
        intro inside
        cases List.infix_cons_iff.mp inside with
        | inl here =>
          have longer : front ++ mark.dropLast <+: rest := by
            rw [← Text.cutAt?_append later]
            exact short_of_mark mark front after
          have whole : mark <+: c :: rest := here.trans (List.cons_prefix_cons.mpr ⟨rfl, longer⟩)
          exact absent (List.isPrefixOf_iff_prefix.mpr whole)
        | inr further => exact ih later further
  · rintro ⟨rfl, first⟩
    induction before with
    | nil =>
      obtain ⟨c, tail, rfl⟩ := List.exists_cons_of_ne_nil nonempty
      have here : (c :: tail).isPrefixOf (c :: (tail ++ after)) = true :=
        List.isPrefixOf_iff_prefix.mpr (List.prefix_append (c :: tail) after)
      rw [List.nil_append, List.cons_append, Text.cutAt?, if_pos here, ← List.cons_append,
        List.drop_left]
    | cons c before ih =>
      have absent : ¬ mark.isPrefixOf (c :: (before ++ mark ++ after)) = true := by
        intro here
        have short := short_of_mark mark (c :: before) after
        have length : mark.length ≤ (c :: before ++ mark.dropLast).length := by
          rw [List.length_append, List.length_dropLast, List.length_cons]
          omega
        exact first (List.prefix_of_prefix_length_le (List.isPrefixOf_iff_prefix.mp here) short
          length).isInfix
      rw [List.cons_append, List.cons_append, Text.cutAt?, if_neg absent,
        ih fun inside => first (List.infix_cons inside)]
      rfl

/-- What stands before the first occurrence of a mark does not hold the mark. -/
theorem cut_before_free (nonempty : mark ≠ [])
    (cut : Text.cutAt? mark t = some (before, after)) : ¬ mark <:+: before := fun inside =>
  ((cut_first_iff nonempty).mp cut).2 (inside.trans (List.prefix_append before _).isInfix)

/-- A part of a text that holds the cut is cut at the same place. -/
theorem cut_part {front back : Text} (nonempty : mark ≠ [])
    (cut : Text.cutAt? mark (front ++ t ++ back) = some (front ++ before, after ++ back)) :
    Text.cutAt? mark t = some (before, after) := by
  rw [cut_first_iff nonempty] at cut ⊢
  obtain ⟨whole, first⟩ := cut
  constructor
  · have inner : front ++ t ++ back = front ++ (before ++ mark ++ after) ++ back := by
      rw [whole]
      simp only [List.append_assoc]
    exact List.append_cancel_left (List.append_cancel_right inner)
  · rw [List.append_assoc] at first
    exact fun inside => first (inside.trans (List.suffix_append front _).isInfix)

end

/-! ## Pieces and separators -/

theorem join_cons {separator piece : Text} {pieces : List Text} (more : pieces ≠ []) :
    Text.join separator (piece :: pieces) = piece ++ separator ++ Text.join separator pieces := by
  cases pieces with
  | nil => exact absurd rfl more
  | cons next rest => rfl

theorem join_append {separator : Text} {before after : List Text} (some : before ≠ [])
    (more : after ≠ []) :
    Text.join separator (before ++ after) =
      Text.join separator before ++ separator ++ Text.join separator after := by
  induction before with
  | nil => exact absurd rfl some
  | cons piece rest ih =>
    cases rest with
    | nil => exact join_cons more
    | cons next rest =>
      rw [List.cons_append, join_cons (List.append_ne_nil_of_left_ne_nil (List.cons_ne_nil _ _) _),
        ih (List.cons_ne_nil _ _), join_cons (List.cons_ne_nil next rest)]
      simp only [List.append_assoc]

/-- Joining adds no characters but those of the separator. -/
theorem mem_join {separator : Text} {pieces : List Text} {c : Char}
    (member : c ∈ Text.join separator pieces) : c ∈ separator ∨ ∃ piece ∈ pieces, c ∈ piece := by
  induction pieces with
  | nil => cases member
  | cons piece rest ih =>
    cases rest with
    | nil => exact .inr ⟨piece, by simp, member⟩
    | cons next rest =>
      rw [join_cons (List.cons_ne_nil _ _), List.append_assoc, List.mem_append,
        List.mem_append] at member
      obtain here | between | later := member
      · exact .inr ⟨piece, by simp, here⟩
      · exact .inl between
      · exact (ih later).imp_right fun ⟨other, listed, inside⟩ => ⟨other, by simp [listed], inside⟩

/-! ## Cutting at a character -/

variable {separator : Char} {piece t : Text}

/-- The first cut is made at the first separator. -/
theorem split_at_first (free : separator ∉ piece) (rest : Text) :
    Text.splitOn separator (piece ++ separator :: rest) = piece :: Text.splitOn separator rest := by
  induction piece with
  | nil => simp [Text.splitOn]
  | cons c piece ih =>
    have other : c ≠ separator := fun same => free (by simp [same])
    simp [Text.splitOn, other, ih fun member => free (by simp [member])]

/-- A text without the separator is not cut. -/
theorem split_of_free (free : separator ∉ t) : Text.splitOn separator t = [t] := by
  induction t with
  | nil => rfl
  | cons c rest ih =>
    have other : c ≠ separator := fun same => free (by simp [same])
    simp [Text.splitOn, other, ih fun member => free (by simp [member])]

/-- What is put after a text lengthens its last piece if it does not hold the separator. -/
theorem split_lengthened {ending : Text} (free : separator ∉ ending) (t : Text) :
    ∃ front last, Text.splitOn separator t = front ++ [last] ∧
      Text.splitOn separator (t ++ ending) = front ++ [last ++ ending] := by
  induction t with
  | nil => exact ⟨[], [], rfl, split_of_free free⟩
  | cons c t ih =>
    obtain ⟨front, last, alone, longer⟩ := ih
    by_cases mark : c = separator
    · refine ⟨[] :: front, last, ?_, ?_⟩
      · simp [Text.splitOn, mark, alone]
      · simp [Text.splitOn, mark, longer]
    · cases front with
      | nil =>
        refine ⟨[], c :: last, ?_, ?_⟩
        · simp [Text.splitOn, mark, alone]
        · simp [Text.splitOn, mark, longer]
      | cons piece front =>
        refine ⟨(c :: piece) :: front, last, ?_, ?_⟩
        · simp [Text.splitOn, mark, alone]
        · simp [Text.splitOn, mark, longer]

/-- Joined pieces are found again; what follows the separator where they were joined stands in front
of every piece but the first. -/
theorem split_join {first : Text} {rest : List Text} (padding : Text) (bare : separator ∉ padding)
    (free : ∀ piece ∈ first :: rest, separator ∉ piece) :
    Text.splitOn separator (Text.join (separator :: padding) (first :: rest)) =
      first :: rest.map (padding ++ ·) := by
  have unpadded : ∀ front : Text, separator ∉ front →
      Text.splitOn separator (front ++ Text.join (separator :: padding) (first :: rest)) =
        (front ++ first) :: rest.map (padding ++ ·) := by
    induction rest generalizing first with
    | nil =>
      intro front clear
      rw [Text.join, split_of_free (by simp [clear, free first (by simp)])]
      rfl
    | cons next rest ih =>
      intro front clear
      obtain ⟨here, later⟩ := List.forall_mem_cons.mp free
      rw [join_cons (List.cons_ne_nil _ _), List.append_assoc, List.cons_append, ← List.append_assoc,
        split_at_first (by simp [clear, here]), ih later padding bare]
      rfl
  exact unpadded [] List.not_mem_nil

/-- Cutting undoes joining with the same character. -/
theorem split_join_plain {first : Text} {rest : List Text}
    (free : ∀ piece ∈ first :: rest, separator ∉ piece) :
    Text.splitOn separator (Text.join [separator] (first :: rest)) = first :: rest := by
  simpa using split_join [] List.not_mem_nil free

/-- One more character in front opens a new piece or lengthens the first one. -/
private theorem mem_split_cons {c : Char} (member : piece ∈ Text.splitOn separator (c :: t)) :
    piece = [] ∨ piece ∈ Text.splitOn separator t ∨
      c ≠ separator ∧ ∃ tail ∈ Text.splitOn separator t, piece = c :: tail := by
  simp only [Text.splitOn] at member
  split at member
  · exact (List.mem_cons.mp member).imp_right .inl
  · rename_i other
    obtain ⟨first, rest, pieces⟩ := List.exists_cons_of_ne_nil (Text.splitOn_ne_nil separator t)
    rw [pieces] at member ⊢
    cases List.mem_cons.mp member with
    | inl same => exact .inr (.inr ⟨other, first, by simp, same⟩)
    | inr later => exact .inr (.inl (by simp [later]))

theorem piece_free (member : piece ∈ Text.splitOn separator t) : separator ∉ piece := by
  induction t generalizing piece with
  | nil => simp_all [Text.splitOn]
  | cons c rest ih =>
    obtain rfl | later | ⟨other, tail, later, rfl⟩ := mem_split_cons member
    · exact List.not_mem_nil
    · exact ih later
    · simp [Ne.symm other, ih later]

/-- A piece has no characters but those of the text. -/
theorem piece_within (member : piece ∈ Text.splitOn separator t) : ∀ c ∈ piece, c ∈ t := by
  induction t generalizing piece with
  | nil => simp_all [Text.splitOn]
  | cons c rest ih =>
    intro other inside
    obtain rfl | later | ⟨_, tail, later, rfl⟩ := mem_split_cons member
    · cases inside
    · exact List.mem_cons_of_mem c (ih later other inside)
    · exact (List.mem_cons.mp inside).elim (by simp +contextual) fun inTail =>
        List.mem_cons_of_mem c (ih later other inTail)

/-! ## Words -/

/-- A word: some characters, none of them blank. -/
structure IsWord (word : Text) : Prop where
  nonempty : word ≠ []
  ink : ∀ c ∈ word, Text.isBlank c = false

theorem ink_of_word {word : Text} (proper : IsWord word) : ∀ c ∈ word, Text.isInk c = true := by
  intro c member
  simp [Text.isInk, proper.ink c member]

theorem is_word_iff {word : Text} :
    IsWord word ↔ word.isEmpty = false ∧ word.all Text.isInk = true := by
  rw [List.isEmpty_eq_false_iff, List.all_eq_true]
  constructor
  · intro proper
    exact ⟨proper.nonempty, ink_of_word proper⟩
  · rintro ⟨nonempty, ink⟩
    exact ⟨nonempty, fun c member => by simpa [Text.isInk] using ink c member⟩

instance (word : Text) : Decidable (IsWord word) := decidable_of_iff _ is_word_iff.symm

theorem space_is_blank : Text.isBlank ' ' = true := by decide

theorem word_no_space {word : Text} (proper : IsWord word) : ' ' ∉ word := by
  intro member
  have ink := proper.ink ' ' member
  rw [space_is_blank] at ink
  cases ink

/-- Where a text goes on with a blank, a word ends. -/
theorem ink_stops {rest : Text} (apart : ∀ c ∈ rest.head?, Text.isBlank c = true) :
    ∀ c ∈ rest.head?, Text.isInk c = false := by
  intro c found
  simp [Text.isInk, apart c found]

/-- A text begins with one word only. -/
theorem first_word_unique {word rest other back : Text} (proper : IsWord word)
    (apart : ∀ c ∈ rest.head?, Text.isBlank c = true) (otherProper : IsWord other)
    (otherApart : ∀ c ∈ back.head?, Text.isBlank c = true) (same : word ++ rest = other ++ back) :
    word = other ∧ rest = back := by
  have first := congrArg (List.takeWhile Text.isInk) same
  have later := congrArg (List.dropWhile Text.isInk) same
  rw [take_while_exact (ink_of_word proper) (ink_stops apart),
    take_while_exact (ink_of_word otherProper) (ink_stops otherApart)] at first
  rw [drop_while_exact (ink_of_word proper) (ink_stops apart),
    drop_while_exact (ink_of_word otherProper) (ink_stops otherApart)] at later
  exact ⟨first, later⟩

/-- What stands between blanks is a word. -/
theorem run_is_word {c : Char} {rest : Text} (atWord : t.dropWhile Text.isBlank = c :: rest) :
    IsWord (c :: rest.takeWhile Text.isInk) where
  nonempty := List.cons_ne_nil c _
  ink := by
    have head := dropped_head Text.isBlank t c (by rw [atWord]; rfl)
    refine List.forall_mem_cons.mpr ⟨head, fun other member => ?_⟩
    simpa [Text.isInk] using taken_all Text.isInk rest other member

/-- A text is made of blanks only, or it has a first word with blanks or nothing in front of it, and goes
on with a blank if it goes on. -/
@[elab_as_elim]
theorem word_by_word {motive : Text → Prop}
    (blanks : ∀ gap : Text, (∀ c ∈ gap, Text.isBlank c = true) → motive gap)
    (word : ∀ gap word rest : Text, (∀ c ∈ gap, Text.isBlank c = true) → IsWord word →
      (∀ c ∈ rest.head?, Text.isBlank c = true) → motive rest → motive (gap ++ (word ++ rest)))
    (t : Text) : motive t := by
  have whole (t : Text) := List.takeWhile_append_dropWhile (p := Text.isBlank) (l := t)
  have front := taken_all Text.isBlank
  fun_induction Text.words t with
  | case1 t none =>
    rw [← whole t, none, List.append_nil]
    exact blanks _ (front t)
  | case2 t c rest atWord ih =>
    have apart : ∀ d ∈ (rest.dropWhile Text.isInk).head?, Text.isBlank d = true := by
      intro d found
      simpa [Text.isInk] using dropped_head Text.isInk rest d found
    have goesOn : c :: rest = (c :: rest.takeWhile Text.isInk) ++ rest.dropWhile Text.isInk := by
      rw [List.cons_append, List.takeWhile_append_dropWhile]
    rw [← whole t, atWord, goesOn]
    exact word _ _ _ (front t) (run_is_word atWord) apart ih

variable {ts : List Text}

/-- The first character of joined words is that of the first word. -/
theorem join_head (proper : ∀ word ∈ ts, IsWord word) :
    ∀ c ∈ (Text.join [' '] ts).head?, Text.isBlank c = false := by
  cases ts with
  | nil => intro c found; cases found
  | cons word rest =>
    have first := proper word (by simp)
    obtain ⟨c, tail, rfl⟩ := List.exists_cons_of_ne_nil first.nonempty
    intro other found
    have same : c = other := by
      cases rest with
      | nil => simpa [Text.join] using found
      | cons next rest => simpa [Text.join] using found
    exact same ▸ first.ink c (by simp)

theorem join_nonempty (proper : ∀ word ∈ ts, IsWord word) (some : ts ≠ []) :
    Text.join [' '] ts ≠ [] := by
  cases ts with
  | nil => exact absurd rfl some
  | cons word rest =>
    have first := (proper word (by simp)).nonempty
    cases rest with
    | nil => exact first
    | cons next rest => simp [Text.join, first]

/-- The last character of joined words is that of the last word. -/
theorem join_last (proper : ∀ word ∈ ts, IsWord word) :
    ∀ c ∈ (Text.join [' '] ts).getLast?, Text.isBlank c = false := by
  induction ts with
  | nil => intro c found; cases found
  | cons word rest ih =>
    have later : ∀ word ∈ rest, IsWord word := fun word member => proper word (by simp [member])
    intro c found
    cases rest with
    | nil => exact (proper word (by simp)).ink c (List.mem_of_getLast? found)
    | cons next rest =>
      have last := List.getLast?_eq_some_getLast (join_nonempty later (List.cons_ne_nil _ _))
      rw [join_cons (List.cons_ne_nil _ _), List.getLast?_append, last, Option.some_or,
        ← last] at found
      exact ih later c found

theorem trim_join (proper : ∀ word ∈ ts, IsWord word) :
    Text.trim (Text.join [' '] ts) = Text.join [' '] ts :=
  trim_of_ends (join_head proper) (join_last proper)

@[simp] theorem words_nil : Text.words [] = [] := by
  rw [Text.words]
  rfl

theorem words_blank {c : Char} (blank : Text.isBlank c = true) (t : Text) :
    Text.words (c :: t) = Text.words t := by
  have same : (c :: t).dropWhile Text.isBlank = t.dropWhile Text.isBlank :=
    List.dropWhile_cons_of_pos blank
  rw [Text.words.eq_def (c :: t), Text.words.eq_def t]
  split <;> split <;> simp_all

/-- A word that is followed by a blank or by nothing is found whole. -/
theorem words_word {word : Text} (proper : IsWord word) (rest : Text)
    (apart : ∀ c ∈ rest.head?, Text.isBlank c = true) :
    Text.words (word ++ rest) = word :: Text.words rest := by
  obtain ⟨c, tail, rfl⟩ := List.exists_cons_of_ne_nil proper.nonempty
  obtain ⟨-, inside⟩ := List.forall_mem_cons.mp (ink_of_word proper)
  have stop := ink_stops apart
  have start : ((c :: tail) ++ rest).dropWhile Text.isBlank = c :: (tail ++ rest) :=
    List.dropWhile_cons_of_neg (by simp [proper.ink c (by simp)])
  rw [Text.words]
  split
  · rename_i none
    rw [start] at none
    cases none
  · rename_i other others found
    rw [start] at found
    cases found
    rw [take_while_exact inside stop, drop_while_exact inside stop]

theorem words_blanks {blanks : Text} (all : ∀ c ∈ blanks, Text.isBlank c = true) (rest : Text) :
    Text.words (blanks ++ rest) = Text.words rest := by
  induction blanks with
  | nil => rfl
  | cons c blanks ih =>
    rw [List.cons_append, words_blank (all c (by simp)), ih fun c member => all c (by simp [member])]

theorem words_of_blanks {blanks : Text} (all : ∀ c ∈ blanks, Text.isBlank c = true) :
    Text.words blanks = [] := by
  rw [← List.append_nil blanks, words_blanks all, words_nil]

/-- A blank between two texts separates their words. -/
theorem words_around_blank {c : Char} (blank : Text.isBlank c = true) (before after : Text) :
    Text.words (before ++ c :: after) = Text.words before ++ Text.words after := by
  induction before using word_by_word with
  | blanks gap all =>
    rw [words_blanks all, words_blank blank, words_of_blanks all, List.nil_append]
  | word gap word rest all proper apart ih =>
    have stillApart : ∀ d ∈ (rest ++ c :: after).head?, Text.isBlank d = true := by
      cases rest with
      | nil => simpa using blank
      | cons d rest => simpa using apart
    rw [List.append_assoc, List.append_assoc, words_blanks all, words_word proper _ stillApart, ih,
      words_blanks all, words_word proper _ apart, List.cons_append]

/-- Trimming takes no words. -/
@[simp] theorem words_trim (t : Text) : Text.words (Text.trim t) = Text.words t := by
  obtain ⟨front, back, frontBlank, backBlank, whole⟩ := trim_between t
  have inner : Text.words t = Text.words (Text.trim t ++ back) := by
    rw [← words_blanks frontBlank (Text.trim t ++ back), ← List.append_assoc, ← whole]
  rw [inner]
  cases back with
  | nil => rw [List.append_nil]
  | cons c back =>
    have later : ∀ c ∈ back, Text.isBlank c = true := fun c member => backBlank c (by simp [member])
    rw [words_around_blank (backBlank c (by simp)), words_of_blanks later, List.append_nil]

/-- Joining words and reading the words of the text gives the words back. -/
theorem words_join (proper : ∀ word ∈ ts, IsWord word) :
    Text.words (Text.join [' '] ts) = ts := by
  induction ts with
  | nil => exact words_nil
  | cons word rest ih =>
    have first := proper word (by simp)
    have later := ih fun word member => proper word (by simp [member])
    cases rest with
    | nil => simpa [Text.join] using words_word first [] (by simp)
    | cons next rest =>
      rw [join_cons (List.cons_ne_nil _ _), List.append_assoc, List.singleton_append,
        words_word first _ (by simp [space_is_blank]), words_blank space_is_blank, later]

end Concordance.TextCuts
