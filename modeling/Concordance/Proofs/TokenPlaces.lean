import Concordance.Proofs.WordCase

/-!
Where tokens stand in their text. The scan finds every run of characters that are not blank, whole and in
order; it numbers the runs from zero and says where each of them starts and stops. Small letters change the
texts of tokens only: their numbers and places still refer to the text that was scanned, even where its small
letters are more than its capitals were.
-/
namespace Concordance.TokenPlaces
open PostingContent TextCuts SmallLetters WordCase

/-- Tokens with all they say about a text that was scanned, and with their texts in some form. -/
structure Exact (t : Text) (form : Text → Text) (tokens : List Token) : Prop where
  numbered : ∀ (k : Nat) token, tokens[k]? = some token → token.position = k
  /-- A token has some characters, all of them in the text. -/
  inside : ∀ token ∈ tokens, 0 ≤ token.start ∧ token.start < token.stop ∧ token.stop ≤ t.length
  /-- Tokens are in order, with at least one character between any two. -/
  apart : tokens.Pairwise fun first second => first.stop < second.start
  /-- A character that is not blank lies in a token, and a blank in none. -/
  covered : ∀ (n : Nat) c, t[n]? = some c →
    (Text.isBlank c = false ↔ ∃ token ∈ tokens, token.start ≤ n ∧ n < token.stop)
  texts : ∀ token ∈ tokens, token.text = form (t.extract token.start.toNat token.stop.toNat)

/-! ## The scan, word by word -/

variable {t gap word rest : Text} {position offset : Int}

private theorem scan_blanks (all : ∀ c ∈ gap, Text.isBlank c = true) :
    Analysis.scan position offset gap = [] := by
  have none : gap.dropWhile Text.isBlank = [] := by
    rw [← List.append_nil gap, drop_while_exact all (by simp)]
  rw [Analysis.scan]
  split
  · rfl
  · rename_i found
    rw [none] at found
    cases found

/-- The first word becomes the first token; the rest is scanned from where the word stops. -/
private theorem scan_word (all : ∀ c ∈ gap, Text.isBlank c = true) (proper : IsWord word)
    (apart : ∀ c ∈ rest.head?, Text.isBlank c = true) :
    Analysis.scan position offset (gap ++ (word ++ rest)) =
      ⟨word, position, offset + gap.length, offset + gap.length + word.length⟩ ::
        Analysis.scan (position + 1) (offset + gap.length + word.length) rest := by
  obtain ⟨c, tail, rfl⟩ := List.exists_cons_of_ne_nil proper.nonempty
  obtain ⟨-, inside⟩ := List.forall_mem_cons.mp (ink_of_word proper)
  have stop := ink_stops apart
  have atWord : ∀ d ∈ ((c :: tail) ++ rest).head?, Text.isBlank d = false := by
    intro d found
    cases found
    exact proper.ink c List.mem_cons_self
  rw [Analysis.scan, take_while_exact all atWord]
  split
  · rename_i none
    rw [drop_while_exact all atWord] at none
    cases none
  · rename_i other others found
    rw [drop_while_exact all atWord, List.cons_append] at found
    cases found
    rw [take_while_exact inside stop, drop_while_exact inside stop]

/-- What is taken out of a text beyond its beginning is taken out of the rest. -/
private theorem extract_beyond (front t : Text) (start stop : Nat) :
    (front ++ t).extract (front.length + start) (front.length + stop) = t.extract start stop := by
  rw [List.extract_eq_take_drop, List.drop_append, List.drop_of_length_le (Nat.le_add_right _ _),
    List.nil_append, Nat.add_sub_add_left, Nat.add_sub_cancel_left]

/-- A token lies in the text that is scanned, and holds the characters that stand there. -/
private theorem scan_inside : ∀ token ∈ Analysis.scan position offset t,
    offset ≤ token.start ∧ token.start < token.stop ∧ token.stop ≤ offset + t.length ∧
      token.text = t.extract (token.start - offset).toNat (token.stop - offset).toNat := by
  induction t using word_by_word generalizing position offset with
  | blanks gap all =>
    rw [scan_blanks all]
    simp
  | word gap word rest all proper apart ih =>
    have some := List.length_pos_iff.mpr proper.nonempty
    have length : (gap ++ (word ++ rest)).length = gap.length + word.length + rest.length := by
      simp [Nat.add_assoc]
    rw [scan_word all proper apart, length]
    intro token member
    rcases List.mem_cons.mp member with rfl | later
    · refine ⟨by dsimp only; omega, by dsimp only; omega, by dsimp only; omega, ?_⟩
      have start : (offset + gap.length - offset).toNat = gap.length + 0 := by omega
      have stop : (offset + gap.length + word.length - offset).toNat = gap.length + word.length := by
        omega
      rw [start, stop, extract_beyond]
      simp
    · obtain ⟨after, nonempty, before, text⟩ := ih token later
      refine ⟨by omega, nonempty, by omega, ?_⟩
      have start : (token.start - offset).toNat = (gap ++ word).length +
          (token.start - (offset + gap.length + word.length)).toNat := by
        rw [List.length_append]
        omega
      have stop : (token.stop - offset).toNat = (gap ++ word).length +
          (token.stop - (offset + gap.length + word.length)).toNat := by
        rw [List.length_append]
        omega
      rw [text, start, stop, ← List.append_assoc, extract_beyond]

/-- The tokens of a text that begins with a blank start beyond it. -/
private theorem scan_beyond (apart : ∀ c ∈ t.head?, Text.isBlank c = true) :
    ∀ token ∈ Analysis.scan position offset t, offset < token.start := by
  cases t using word_by_word with
  | blanks gap all =>
    rw [scan_blanks all]
    simp
  | word gap word rest all proper after =>
    have some : 0 < gap.length := by
      refine List.length_pos_iff.mpr ?_
      rintro rfl
      obtain ⟨c, tail, rfl⟩ := List.exists_cons_of_ne_nil proper.nonempty
      have ink := proper.ink c List.mem_cons_self
      rw [apart c rfl] at ink
      cases ink
    rw [scan_word all proper after]
    intro token member
    rcases List.mem_cons.mp member with rfl | later
    · dsimp only
      omega
    · have := (scan_inside token later).1
      omega

/-- Words do not touch, so neither do tokens. -/
private theorem scan_apart : (Analysis.scan position offset t).Pairwise fun first second =>
    first.stop < second.start := by
  induction t using word_by_word generalizing position offset with
  | blanks gap all =>
    rw [scan_blanks all]
    exact .nil
  | word gap word rest all proper apart ih =>
    rw [scan_word all proper apart]
    exact List.pairwise_cons.mpr ⟨scan_beyond apart, ih⟩

/-- The characters in tokens are those that are not blank. -/
private theorem scan_covers {n : Nat} {c : Char} (found : t[n]? = some c) :
    Text.isBlank c = false ↔ ∃ token ∈ Analysis.scan position offset t,
      token.start ≤ offset + n ∧ offset + n < token.stop := by
  induction t using word_by_word generalizing position offset n with
  | blanks gap all =>
    rw [scan_blanks all]
    simp [all c (List.mem_of_getElem? found)]
  | word gap word rest all proper apart ih =>
    rw [scan_word all proper apart]
    simp only [List.mem_cons, exists_eq_or_imp]
    -- The character stands before the first word, in it or after it.
    by_cases before : n < gap.length
    · rw [List.getElem?_append_left before] at found
      simp only [all c (List.mem_of_getElem? found), Bool.true_eq_false, false_iff]
      rintro (⟨start, _⟩ | ⟨token, later, start, _⟩)
      · omega
      · have := (scan_inside token later).1
        omega
    · rw [List.getElem?_append_right (by omega)] at found
      by_cases within : n - gap.length < word.length
      · rw [List.getElem?_append_left within] at found
        have ink := proper.ink c (List.mem_of_getElem? found)
        exact iff_of_true ink (.inl ⟨by omega, by omega⟩)
      · rw [List.getElem?_append_right (by omega)] at found
        have place : offset + gap.length + word.length + (n - gap.length - word.length : Nat) =
            offset + n := by omega
        rw [ih found, place]
        refine (or_iff_right ?_).symm
        rintro ⟨_, stop⟩
        omega

/-! ## Small letters -/

/-- Small letters change the text of a token and nothing else. -/
private theorem lowered_eq (token : Token) :
    token.lowered = { token with text := Text.lower token.text } := by
  have text := lowered_text token
  unfold Token.lowered at text ⊢
  split
  · rename_i small
    rw [if_pos small] at text
    rw [← text]
  · rfl

/-- Small letters have their effect the first time. -/
theorem tokens_lowered (times : Nat) (t : Text) :
    Analysis.tokenizeLowered (times + 1) t =
      (Analysis.tokenize t).map fun token => { token with text := Text.lower token.text } := by
  induction times with
  | zero => exact List.map_congr_left fun token _ => lowered_eq token
  | succ times ih =>
    rw [Analysis.tokenizeLowered, ih, List.map_map]
    refine List.map_congr_left fun token _ => ?_
    rw [Function.comp_apply, lowered_eq, lower_lower]

/-- Tokens whose texts change their form are as exact as they were. -/
private theorem Exact.formed {tokens : List Token} (exact : Exact t id tokens) (form : Text → Text) :
    Exact t form (tokens.map fun token => { token with text := form token.text }) where
  numbered := by
    intro k token found
    rw [List.getElem?_map] at found
    obtain ⟨plain, here, rfl⟩ := Option.map_eq_some_iff.mp found
    exact exact.numbered k plain here
  inside := by
    simpa only [List.forall_mem_map] using exact.inside
  apart := by
    rw [List.pairwise_map]
    exact exact.apart
  covered := by
    intro n c found
    rw [exact.covered n c found]
    constructor
    · rintro ⟨token, member, here⟩
      exact ⟨_, List.mem_map_of_mem member, here⟩
    · rintro ⟨token, member, here⟩
      obtain ⟨plain, listed, rfl⟩ := List.mem_map.mp member
      exact ⟨plain, listed, here⟩
  texts := by
    simp only [List.forall_mem_map]
    intro token member
    exact congrArg form (exact.texts token member)

/-- The tokens of a scan are exact, each with its text as it was found. -/
theorem tokenize_exact (t : Text) : Exact t id (Analysis.tokenize t) where
  numbered := by
    intro k token found
    rw [scan_position found, Int.zero_add]
  inside := by
    intro token member
    obtain ⟨start, nonempty, stop, _⟩ := scan_inside token member
    exact ⟨start, nonempty, by omega⟩
  apart := scan_apart
  covered := by
    intro n c found
    simpa only [Analysis.tokenize, Int.zero_add] using @scan_covers t 0 0 n c found
  texts := by
    intro token member
    simpa only [Int.sub_zero, id] using (scan_inside token member).2.2.2

/-- The number of a token, and where it starts and stops. -/
def place (token : Token) : Int × Int × Int := (token.position, token.start, token.stop)

/-- However often the tokens of a text are put into small letters, they are numbered from zero in their
order, and stand in the text that was scanned as its maximal runs of characters that are not blank; their
texts are these runs, in small letters if they were put into them at all; and numbers and places are those
of the scan. -/
theorem tokens_are_exact (times : Nat) (t : Text) :
    Exact t (if times = 0 then id else Text.lower) (Analysis.tokenizeLowered times t) ∧
      (Analysis.tokenizeLowered times t).map place = (Analysis.tokenize t).map place := by
  cases times with
  | zero => exact ⟨tokenize_exact t, rfl⟩
  | succ times =>
    rw [tokens_lowered, if_neg (Nat.succ_ne_zero times)]
    refine ⟨(tokenize_exact t).formed Text.lower, ?_⟩
    rw [List.map_map]
    rfl

/-- The small form of a dotted capital is two characters, but its token stays one character long. -/
theorem dotted_capital_keeps_place :
    (Analysis.tokenizeLowered 2 "A İ\n".toList).map Token.text = [['a'], ['i', '\u0307']] ∧
      (Analysis.tokenizeLowered 2 "A İ\n".toList).map place = [(0, 0, 1), (1, 2, 3)] :=
  ⟨by decide +kernel, (tokens_are_exact 2 _).2.trans (by decide +kernel)⟩

end Concordance.TokenPlaces
