import Mathlib.Data.List.Sort
import Concordance.Proofs.EntryForm

/-!
Which texts are entries. A text is cut into runs of characters that are not blank; the first run that ends in
a colon, has something before it and is followed by another run is the name, and nothing but the rest of the
line after it can be the positions. A search for the same form from left to right, whose parts take all they
can and give it back one by one, comes to the same end.
-/
namespace Concordance.EntryGrammar
open TextCuts EntryForm

/-! ## The form of an entry -/

/-- A text with its first name in it. What stands before the name ends in a blank, and none of its runs is
a name; after the name and its colon there are blanks, and then another run. -/
structure Named (t before doc gap rest : Text) : Prop where
  whole : t = before ++ ((doc ++ [':']) ++ (gap ++ rest))
  apart : ∀ c ∈ before.getLast?, Text.isBlank c = true
  earlier : ∀ run ∈ Text.words before, Entry.isName run = false
  name : IsWord doc
  blanks : gap ≠ [] ∧ ∀ c ∈ gap, Text.isBlank c = true
  next : rest ≠ [] ∧ ∀ c ∈ rest.head?, Text.isBlank c = false

/-- The pieces of a text between commas, where the blanks after a comma belong to the comma. -/
inductive Pieces : Text → List Text → Prop where
  | last {piece : Text} : ',' ∉ piece → Pieces piece [piece]
  | more {piece gap rest : Text} {pieces : List Text} : ',' ∉ piece →
      (∀ c ∈ gap, Text.isBlank c = true) → (∀ c ∈ rest.head?, Text.isBlank c = false) →
      Pieces rest pieces → Pieces (piece ++ ',' :: (gap ++ rest)) (piece :: pieces)

/-- A text spells positions if all its pieces are integers and none of these is negative; the positions are
these integers in ascending order, each of them once. -/
def Spells (raw : Text) (positions : List Int) : Prop :=
  ∃ pieces, Pieces (Text.trim raw) pieces ∧
    (∀ piece ∈ pieces, ∃ value, Integer.read? piece = some value ∧ 0 ≤ value) ∧
    positions.Pairwise (· < ·) ∧
    ∀ position, position ∈ positions ↔ ∃ piece ∈ pieces, Integer.read? piece = some position

/-! ## The search for an entry -/

/-- The ways to cut a text after some characters of a class, the longest beginning first. -/
def runs (p : Char → Bool) : Text → List (Text × Text)
  | [] => []
  | c :: rest =>
    if p c then ((runs p rest).map fun (front, back) => (c :: front, back)) ++ [([c], rest)] else []

/-- Blanks, and what follows them on a line. -/
def lineAfterBlanks? (t : Text) : Option Text :=
  (runs Text.isBlank t).findSome? fun (_, rest) => ((runs (· != '\n') rest).head?).map Prod.fst

/-- A name with its colon, blanks, and what follows on the line. -/
def named? : Text × Text → Option (Text × Text)
  | (name, ':' :: after) => (lineAfterBlanks? after).map (name, ·)
  | _ => none

/-- The form of an entry where a text begins: the name takes all it can that is not blank. -/
def here? (t : Text) : Option (Text × Text) := (runs Text.isInk t).findSome? named?

/-- The form of an entry at the first place at which a text has it. -/
def leftmost? : Text → Option (Text × Text)
  | [] => none
  | c :: rest => (here? (c :: rest)).or (leftmost? rest)

variable {t before doc gap rest raw word : Text}

section
variable {p : Char → Bool} {front back : Text}

private theorem mem_runs :
    (front, back) ∈ runs p t ↔ t = front ++ back ∧ front ≠ [] ∧ ∀ c ∈ front, p c = true := by
  induction t generalizing front with
  | nil =>
    refine iff_of_false List.not_mem_nil ?_
    rintro ⟨whole, some, _⟩
    exact some (List.append_eq_nil_iff.mp whole.symm).1
  | cons c t ih =>
    unfold runs
    split
    · rename_i here
      simp only [List.mem_append, List.mem_map, List.mem_singleton, Prod.exists]
      constructor
      · rintro (⟨shorter, _, member, same⟩ | same)
        · cases same
          obtain ⟨rfl, _, all⟩ := ih.mp member
          exact ⟨rfl, List.cons_ne_nil c _, List.forall_mem_cons.mpr ⟨here, all⟩⟩
        · cases same
          exact ⟨rfl, List.cons_ne_nil c _, by simpa using here⟩
      · rintro ⟨whole, some, all⟩
        cases front with
        | nil => exact absurd rfl some
        | cons d front =>
          cases whole
          cases front with
          | nil => exact .inr rfl
          | cons e front =>
            have later := ih.mpr ⟨rfl, List.cons_ne_nil e front, (List.forall_mem_cons.mp all).2⟩
            exact .inl ⟨_, _, later, rfl⟩
    · rename_i stop
      refine iff_of_false List.not_mem_nil ?_
      rintro ⟨whole, some, all⟩
      cases front with
      | nil => exact some rfl
      | cons d front =>
        cases whole
        exact stop (all c List.mem_cons_self)

private theorem runs_stop (stop : ∀ c ∈ back.head?, p c = false) : runs p back = [] := by
  cases back with
  | nil => rfl
  | cons c back => simp [runs, stop c rfl]

/-- What takes most is tried first. -/
private theorem runs_longest (some : front ≠ []) (all : ∀ c ∈ front, p c = true)
    (stop : ∀ c ∈ back.head?, p c = false) :
    ∃ shorter, runs p (front ++ back) = (front, back) :: shorter := by
  induction front with
  | nil => exact absurd rfl some
  | cons c front ih =>
    obtain ⟨here, later⟩ := List.forall_mem_cons.mp all
    rw [List.cons_append, runs, if_pos here]
    cases front with
    | nil => exact ⟨[], by simp [runs_stop stop]⟩
    | cons d front =>
      obtain ⟨shorter, longest⟩ := ih (List.cons_ne_nil d front) later
      exact ⟨_, by rw [longest]; rfl⟩

private theorem first_run {c : Char} (here : p c = true) (next : Text) :
    ((runs p (c :: next)).head?).map Prod.fst = some ((c :: next).takeWhile p) := by
  have some : (c :: next).takeWhile p ≠ [] := by
    rw [List.takeWhile_cons_of_pos here]
    exact List.cons_ne_nil c _
  obtain ⟨_, longest⟩ := runs_longest some (taken_all p _) (dropped_head p _)
  rw [List.takeWhile_append_dropWhile] at longest
  rw [longest]
  rfl

end

/-- Where one element only can have an image, looking for an image finds its own. -/
private theorem find_only {α β : Type} {f : α → Option β} {a : α} {as : List α} (member : a ∈ as)
    (only : ∀ b ∈ as, b ≠ a → f b = none) : as.findSome? f = f a := by
  cases image : f a with
  | none =>
    rw [List.findSome?_eq_none_iff]
    intro b listed
    by_cases same : b = a
    · rw [same, image]
    · exact only b listed same
  | some found =>
    cases first : as.findSome? f with
    | none => rw [List.findSome?_eq_none_iff.mp first a member] at image; cases image
    | some other =>
      obtain ⟨b, listed, there⟩ := List.exists_of_findSome?_eq_some first
      by_cases same : b = a
      · rw [← there, same, image]
      · rw [only b listed same] at there
        cases there

/-! ## What the search finds -/

private theorem blank_of_line {line : Text} (found : lineAfterBlanks? t = some line) :
    ∀ c ∈ t.head?, Text.isBlank c = true := by
  cases t with
  | nil => simp
  | cons c rest =>
    intro other same
    cases same
    by_contra ink
    have stop : ∀ d ∈ (c :: rest).head?, Text.isBlank d = false := by simpa using ink
    rw [lineAfterBlanks?, runs_stop stop] at found
    cases found

/-- After a word there is a line if the text goes on beyond the blanks. It is the blanks that take all they
can first, so the line begins with the next word. -/
private theorem line_after_blanks (apart : ∀ c ∈ t.head?, Text.isBlank c = true)
    (closed : ∀ c ∈ t.getLast?, Text.isBlank c = false) :
    lineAfterBlanks? t =
      if (t.dropWhile Text.isBlank).isEmpty then none
      else some ((t.dropWhile Text.isBlank).takeWhile (· != '\n')) := by
  have whole := List.takeWhile_append_dropWhile (p := Text.isBlank) (l := t)
  have all := taken_all Text.isBlank t
  have head := dropped_head Text.isBlank t
  generalize t.takeWhile Text.isBlank = gap at whole all
  generalize t.dropWhile Text.isBlank = next at whole head ⊢
  subst whole
  match next with
  | [] =>
    have none : gap = [] := by
      by_contra some
      have last := List.getLast?_eq_some_getLast some
      have ink := closed _ (by simpa using last)
      rw [all _ (List.getLast_mem some)] at ink
      cases ink
    subst none
    rfl
  | c :: next =>
    have ink := head c rfl
    have some : gap ≠ [] := by
      rintro rfl
      have blank := apart c rfl
      rw [ink] at blank
      cases blank
    have inLine : (c != '\n') = true := by
      rw [bne_iff_ne]
      rintro rfl
      cases ink
    obtain ⟨_, longest⟩ := runs_longest some all head
    have line := first_run (p := (· != '\n')) inLine next
    rw [lineAfterBlanks?, longest, List.findSome?_cons]
    dsimp only
    rw [line]
    rfl

/-- A name that is found where a word begins is the word, but for its last character. -/
private theorem name_of_word {name back : Text} {found : Text × Text} (proper : IsWord word)
    (apart : ∀ c ∈ rest.head?, Text.isBlank c = true)
    (member : (name, back) ∈ runs Text.isInk (word ++ rest)) (there : named? (name, back) = some found) :
    name ≠ [] ∧ word = name ++ [':'] ∧ back = ':' :: rest := by
  obtain ⟨whole, some, inName⟩ := mem_runs.mp member
  unfold named? at there
  split at there
  · rename_i after same
    cases same
    obtain ⟨line, follows, _⟩ := Option.map_eq_some_iff.mp there
    have named : IsWord name := ⟨some, fun c member => by simpa [Text.isInk] using inName c member⟩
    rw [List.append_cons] at whole
    obtain ⟨first, rfl⟩ :=
      first_word_unique proper apart (word_colon named) (blank_of_line follows) whole
    exact ⟨some, first, rfl⟩
  · cases there

/-- Where a word begins, the form is there if the word is a name and a line follows it. Of the colons in
the word only the last one can have blanks after it. -/
private theorem here_word (proper : IsWord word) (apart : ∀ c ∈ rest.head?, Text.isBlank c = true) :
    here? (word ++ rest) =
      if Entry.isName word then (lineAfterBlanks? rest).map (word.dropLast, ·) else none := by
  by_cases name : Entry.isName word = true
  · obtain ⟨doc, some, rfl⟩ := is_name_iff.mp name
    have inDoc := (List.forall_mem_append.mp (ink_of_word proper)).1
    have member : (doc, ':' :: rest) ∈ runs Text.isInk ((doc ++ [':']) ++ rest) :=
      mem_runs.mpr ⟨(List.append_cons doc ':' rest).symm, some, inDoc⟩
    have only : ∀ cut ∈ runs Text.isInk ((doc ++ [':']) ++ rest), cut ≠ (doc, ':' :: rest) →
        named? cut = none := by
      intro (other, back) listed different
      by_contra success
      obtain ⟨found, there⟩ := Option.ne_none_iff_exists'.mp success
      obtain ⟨-, same, rfl⟩ := name_of_word proper apart listed there
      exact different (by rw [List.append_cancel_right same])
    rw [here?, find_only member only, if_pos name, List.dropLast_concat]
    rfl
  · rw [here?, if_neg name, List.findSome?_eq_none_iff]
    intro (other, back) listed
    by_contra success
    obtain ⟨found, there⟩ := Option.ne_none_iff_exists'.mp success
    obtain ⟨some, same, -⟩ := name_of_word proper apart listed there
    exact name (is_name_iff.mpr ⟨other, some, same⟩)

private theorem leftmost_blanks (all : ∀ c ∈ gap, Text.isBlank c = true) (t : Text) :
    leftmost? (gap ++ t) = leftmost? t := by
  induction gap with
  | nil => rfl
  | cons c gap ih =>
    obtain ⟨blank, later⟩ := List.forall_mem_cons.mp all
    have none : here? (c :: (gap ++ t)) = none := by
      rw [here?, runs_stop (ink_stops (by simpa using blank))]
      rfl
    rw [List.cons_append, leftmost?, none, Option.none_or, ih later]

/-- A search that has come to a word takes it or goes on behind it: where the whole word is no name,
none of its endings is one. -/
private theorem leftmost_word (proper : IsWord word)
    (apart : ∀ c ∈ rest.head?, Text.isBlank c = true) :
    leftmost? (word ++ rest) =
      (if Entry.isName word then (lineAfterBlanks? rest).map (word.dropLast, ·) else none).or
        (leftmost? rest) := by
  induction word with
  | nil => exact absurd rfl proper.nonempty
  | cons c word ih =>
    rw [← here_word proper apart]
    cases word with
    | nil => rfl
    | cons d word =>
      have shorter : IsWord (d :: word) :=
        ⟨List.cons_ne_nil d word, (List.forall_mem_cons.mp proper.ink).2⟩
      have step : leftmost? ((c :: d :: word) ++ rest) =
          (here? ((c :: d :: word) ++ rest)).or (leftmost? ((d :: word) ++ rest)) := rfl
      have ending : Entry.isName (d :: word) = true → Entry.isName (c :: d :: word) = true := by
        intro name
        obtain ⟨doc, _, same⟩ := is_name_iff.mp name
        exact is_name_iff.mpr ⟨c :: doc, List.cons_ne_nil c doc, congrArg (c :: ·) same⟩
      rw [step, ih shorter, here_word proper apart]
      cases lineAfterBlanks? rest with
      | none => simp
      | some line =>
        by_cases name : Entry.isName (c :: d :: word) = true
        · simp [name]
        · have short : ¬ Entry.isName (d :: word) = true := fun ends => name (ending ends)
          simp [name, short]

/-- A text that does not end in a blank is cut where the search finds the form of an entry. -/
theorem leftmost_is_cut (closed : ∀ c ∈ t.getLast?, Text.isBlank c = false) :
    leftmost? t = Entry.cut? t := by
  induction t using word_by_word with
  | blanks gap all =>
    have searched := leftmost_blanks all []
    rw [List.append_nil] at searched
    rw [searched, cut_of_blanks all]
    rfl
  | word gap word rest all proper apart ih =>
    have closedRest : ∀ c ∈ rest.getLast?, Text.isBlank c = false := fun c found =>
      closed c (List.mem_getLast?_append_of_mem_getLast?
        (List.mem_getLast?_append_of_mem_getLast? found))
    rw [leftmost_blanks all, cut_blanks all, leftmost_word proper apart, cut_word proper apart,
      line_after_blanks apart closedRest, ih closedRest]
    cases Entry.isName word with
    | false => rfl
    | true => cases (rest.dropWhile Text.isBlank).isEmpty <;> rfl

/-! ## What a cut finds -/

private theorem words_some_iff : Text.words t ≠ [] ↔ t.dropWhile Text.isBlank ≠ [] := by
  rw [Text.words]
  split <;> simp_all

/-- A cut passes over words that are no names. -/
private theorem cut_behind (apart : ∀ c ∈ before.getLast?, Text.isBlank c = true)
    (earlier : ∀ run ∈ Text.words before, Entry.isName run = false) (t : Text) :
    Entry.cut? (before ++ t) = Entry.cut? t := by
  induction before using word_by_word with
  | blanks gap all => exact cut_blanks all t
  | word gap word rest all proper apartRest ih =>
    rw [words_blanks all, words_word proper rest apartRest] at earlier
    obtain ⟨noName, later⟩ := List.forall_mem_cons.mp earlier
    obtain ⟨c, tail, rfl⟩ : ∃ c tail, rest = c :: tail := by
      refine List.exists_cons_of_ne_nil fun none => ?_
      subst none
      rw [List.append_nil] at apart
      have last := List.getLast?_eq_some_getLast proper.nonempty
      have blank := apart _ (List.mem_getLast?_append_of_mem_getLast? last)
      rw [proper.ink _ (List.getLast_mem proper.nonempty)] at blank
      cases blank
    have apartTail : ∀ d ∈ (c :: tail).getLast?, Text.isBlank d = true := fun d found =>
      apart d (List.mem_getLast?_append_of_mem_getLast?
        (List.mem_getLast?_append_of_mem_getLast? found))
    rw [List.append_assoc, List.append_assoc, cut_blanks all, cut_word proper (by simpa using apartRest),
      noName, ih apartTail later]
    rfl

private theorem cut_of_named (named : Named t before doc gap rest) :
    Entry.cut? t = some (doc, rest.takeWhile (· != '\n')) := by
  have name : Entry.isName (doc ++ [':']) = true := is_name_iff.mpr ⟨doc, named.name.nonempty, rfl⟩
  obtain ⟨c, tail, same⟩ := List.exists_cons_of_ne_nil named.blanks.1
  have apart : ∀ d ∈ (gap ++ rest).head?, Text.isBlank d = true := by
    intro d found
    refine named.blanks.2 d (List.mem_of_head? ?_)
    simpa [same] using found
  rw [named.whole, cut_behind named.apart named.earlier, cut_word (word_colon named.name) apart, name,
    drop_while_exact named.blanks.2 named.next.2, List.dropLast_concat]
  simp [named.next.1]

/-- The first word of a text is its name if it can be one and there are more words. -/
private theorem named_at_word (all : ∀ c ∈ gap, Text.isBlank c = true) (some : doc ≠ [])
    (proper : IsWord (doc ++ [':'])) (apart : ∀ c ∈ rest.head?, Text.isBlank c = true)
    (more : Text.words rest ≠ []) :
    Named (gap ++ ((doc ++ [':']) ++ rest)) gap doc (rest.takeWhile Text.isBlank)
      (rest.dropWhile Text.isBlank) where
  whole := by rw [List.takeWhile_append_dropWhile]
  apart := fun c found => all c (List.mem_of_getLast? found)
  earlier := by simp [words_of_blanks all]
  name := ⟨some, fun c member => proper.ink c (List.mem_append_left _ member)⟩
  blanks := by
    refine ⟨?_, taken_all Text.isBlank rest⟩
    cases rest with
    | nil => exact absurd words_nil more
    | cons c rest =>
      rw [List.takeWhile_cons_of_pos (apart c rfl)]
      exact List.cons_ne_nil c _
  next := ⟨words_some_iff.mp more, dropped_head Text.isBlank rest⟩

/-- A first word that is no name stands before the name. -/
private theorem named_behind_word {front next : Text} (all : ∀ c ∈ front, Text.isBlank c = true)
    (proper : IsWord word) (noName : Entry.isName word = false)
    (apart : ∀ c ∈ rest.head?, Text.isBlank c = true) (named : Named rest before doc gap next) :
    Named (front ++ (word ++ rest)) (front ++ (word ++ before)) doc gap next := by
  obtain ⟨c, tail, rfl⟩ : ∃ c tail, before = c :: tail := by
    refine List.exists_cons_of_ne_nil fun none => ?_
    obtain ⟨d, name, same⟩ := List.exists_cons_of_ne_nil named.name.nonempty
    have blank := apart d (by rw [named.whole, none, same]; rfl)
    rw [named.name.ink d (by simp [same])] at blank
    cases blank
  have apartTail : ∀ d ∈ (c :: tail).head?, Text.isBlank d = true := by
    intro d found
    exact apart d (by simpa [named.whole] using found)
  refine ⟨?_, fun d found => named.apart d ?_, ?_, named.name, named.blanks, named.next⟩
  · rw [named.whole]
    simp only [List.append_assoc]
  · rwa [List.getLast?_append_of_ne_nil _ (by simp),
      List.getLast?_append_of_ne_nil _ (List.cons_ne_nil c tail)] at found
  · rw [words_blanks all, words_word proper _ apartTail]
    exact List.forall_mem_cons.mpr ⟨noName, named.earlier⟩

/-- Where a run before the last one is a name, there is a first one. -/
private theorem named_of_run (name : ∃ run ∈ (Text.words t).dropLast, Entry.isName run = true) :
    ∃ before doc gap rest, Named t before doc gap rest := by
  induction t using word_by_word with
  | blanks gap all =>
    obtain ⟨run, member, _⟩ := name
    rw [words_of_blanks all] at member
    cases member
  | word gap word rest all proper apart ih =>
    obtain ⟨run, member, name⟩ := name
    rw [words_blanks all, words_word proper rest apart] at member
    have more : Text.words rest ≠ [] := by
      intro none
      rw [none] at member
      cases member
    rw [List.dropLast_cons_of_ne_nil more] at member
    by_cases here : Entry.isName word = true
    · obtain ⟨doc, some, rfl⟩ := is_name_iff.mp here
      exact ⟨gap, doc, _, _, named_at_word all some proper apart more⟩
    · obtain rfl | later := List.mem_cons.mp member
      · exact absurd name here
      · obtain ⟨before, doc, gapNext, restNext, named⟩ := ih ⟨run, later, name⟩
        exact ⟨_, _, _, _, named_behind_word all proper (eq_false_of_ne_true here) apart named⟩

private theorem run_of_cut {cut : Text × Text} (found : Entry.cut? t = some cut) :
    ∃ run ∈ (Text.words t).dropLast, Entry.isName run = true := by
  induction t using word_by_word with
  | blanks gap all =>
    rw [cut_of_blanks all] at found
    cases found
  | word gap word rest all proper apart ih =>
    rw [cut_blanks all, cut_word proper apart] at found
    rw [words_blanks all, words_word proper rest apart]
    split at found
    · rename_i accepted
      obtain ⟨name, next⟩ := Bool.and_eq_true_iff.mp accepted
      have more : Text.words rest ≠ [] := words_some_iff.mpr (by simpa using next)
      exact ⟨word, by simp [List.dropLast_cons_of_ne_nil more], name⟩
    · obtain ⟨run, member, name⟩ := ih found
      have more : Text.words rest ≠ [] := fun none => by simp [none] at member
      exact ⟨run, by simp [List.dropLast_cons_of_ne_nil more, member], name⟩

theorem cut_iff : Entry.cut? t = some (doc, raw) ↔
    ∃ before gap rest, Named t before doc gap rest ∧ raw = rest.takeWhile (· != '\n') := by
  constructor
  · intro found
    obtain ⟨before, _, gap, rest, named⟩ := named_of_run (run_of_cut found)
    rw [cut_of_named named] at found
    cases found
    exact ⟨before, gap, rest, named, rfl⟩
  · rintro ⟨before, gap, rest, named, rfl⟩
    exact cut_of_named named

/-- A text has a name exactly if a run before the last one can be one. -/
theorem named_iff : (∃ before doc gap rest, Named t before doc gap rest) ↔
    ∃ run ∈ (Text.words t).dropLast, Entry.isName run = true := by
  refine ⟨?_, named_of_run⟩
  rintro ⟨before, doc, gap, rest, named⟩
  exact run_of_cut (cut_of_named named)

/-! ## Positions -/

private theorem comma_not_blank : Text.isBlank ',' = false := by decide

private theorem split_after_blanks (all : ∀ c ∈ gap, Text.isBlank c = true) (rest : Text) :
    ∃ first others, Text.splitOn ',' rest = first :: others ∧
      Text.splitOn ',' (gap ++ rest) = (gap ++ first) :: others := by
  induction gap with
  | nil =>
    obtain ⟨first, others, split⟩ := List.exists_cons_of_ne_nil (Text.splitOn_ne_nil ',' rest)
    exact ⟨first, others, split, split⟩
  | cons c gap ih =>
    obtain ⟨blank, later⟩ := List.forall_mem_cons.mp all
    obtain ⟨first, others, split, longer⟩ := ih later
    have other : c ≠ ',' := by
      rintro rfl
      rw [comma_not_blank] at blank
      cases blank
    exact ⟨first, others, split, by rw [List.cons_append, Text.splitOn, if_neg other, longer]; rfl⟩

/-- The first piece of a text that does not begin with a blank does not begin with one either. -/
private theorem first_piece {first : Text} {others : List Text}
    (next : ∀ c ∈ rest.head?, Text.isBlank c = false)
    (split : Text.splitOn ',' rest = first :: others) :
    ∀ c ∈ first.head?, Text.isBlank c = false := by
  intro c found
  have whole := Text.join_splitOn ',' rest
  rw [split] at whole
  refine next c ?_
  rw [← whole]
  cases others with
  | nil => exact found
  | cons other others =>
    rw [join_cons (List.cons_ne_nil other others), List.append_assoc, Option.mem_def,
      List.head?_append, found]
    rfl

private theorem pieces_of_free {piece : Text} (free : ',' ∉ piece) :
    Entry.pieces piece = [piece] := by
  rw [Entry.pieces, split_of_free free]
  rfl

private theorem pieces_at_comma {piece : Text} (free : ',' ∉ piece)
    (all : ∀ c ∈ gap, Text.isBlank c = true) (next : ∀ c ∈ rest.head?, Text.isBlank c = false) :
    Entry.pieces (piece ++ ',' :: (gap ++ rest)) = piece :: Entry.pieces rest := by
  obtain ⟨first, others, split, longer⟩ := split_after_blanks all rest
  have bare := first_piece next split
  rw [Entry.pieces, split_at_first free, longer, Entry.pieces, split]
  dsimp only
  rw [List.map_cons, drop_while_exact all bare]

private theorem pieces_exist (t : Text) : ∃ pieces, Pieces t pieces := by
  by_cases comma : ',' ∈ t
  · obtain ⟨piece, after, whole, free⟩ := List.eq_append_cons_of_mem comma
    have length := congrArg List.length whole
    obtain ⟨pieces, later⟩ := pieces_exist (after.dropWhile Text.isBlank)
    have all := Pieces.more free (taken_all Text.isBlank after) (dropped_head Text.isBlank after) later
    rw [List.takeWhile_append_dropWhile, ← whole] at all
    exact ⟨_, all⟩
  · exact ⟨[t], .last comma⟩
termination_by t.length
decreasing_by
  have shorter := (List.dropWhile_suffix (l := after) Text.isBlank).length_le
  rw [length, List.length_append, List.length_cons]
  omega

private theorem pieces_iff {pieces : List Text} : Pieces t pieces ↔ pieces = Entry.pieces t := by
  have sound : ∀ {pieces}, Pieces t pieces → pieces = Entry.pieces t := by
    intro pieces form
    induction form with
    | last free => exact (pieces_of_free free).symm
    | more free all next _ ih => rw [pieces_at_comma free all next, ih]
  refine ⟨sound, ?_⟩
  rintro rfl
  obtain ⟨pieces, form⟩ := pieces_exist t
  exact sound form ▸ form

private theorem read_all {pieces : List Text}
    (all : ∀ piece ∈ pieces, ∃ value, Integer.read? piece = some value ∧ 0 ≤ value) :
    ∃ values : List Int, pieces.map Integer.read? = values.map some ∧
      ∀ value ∈ values, 0 ≤ value := by
  induction pieces with
  | nil => exact ⟨[], rfl, by simp⟩
  | cons piece pieces ih =>
    obtain ⟨⟨value, read, natural⟩, later⟩ := List.forall_mem_cons.mp all
    obtain ⟨values, others, naturals⟩ := ih later
    refine ⟨value :: values, ?_, List.forall_mem_cons.mpr ⟨natural, naturals⟩⟩
    rw [List.map_cons, List.map_cons, read, others]

private theorem listed_iff {pieces : List Text} {values : List Int}
    (each : pieces.map Integer.read? = values.map some) (value : Int) :
    value ∈ values ↔ ∃ piece ∈ pieces, Integer.read? piece = some value := by
  rw [← List.mem_map, each]
  simp

theorem positions_iff {positions : List Int} :
    Entry.positions? raw = some positions ↔ Spells raw positions := by
  constructor
  · intro read
    have ascending := (positions_sound read).1.ordered.ascending
    refine ⟨_, pieces_iff.mpr rfl, ?_⟩
    unfold Entry.positions? at read
    split at read
    · cases read
    · rename_i values found
      have each := read_pieces_iff.mp found
      split at read
      · cases read
      · rename_i natural
        cases read
        refine ⟨fun piece member => ?_, ascending, fun position =>
          mem_of_list.trans (listed_iff each position)⟩
        have read := List.mem_map_of_mem (f := Integer.read?) member
        rw [each] at read
        obtain ⟨value, there, same⟩ := List.mem_map.mp read
        simp only [List.any_eq_true, decide_eq_true_eq, not_exists, not_and, not_lt] at natural
        exact ⟨value, same.symm, natural value there⟩
  · rintro ⟨pieces, form, all, ascending, listed⟩
    rw [pieces_iff] at form
    obtain ⟨values, each, natural⟩ := read_all all
    have found := read_pieces_iff.mpr each
    have none : values.any (· < 0) = false := by simpa using natural
    have read : Entry.positions? raw = some (Positions.ofList values) := by
      rw [Entry.positions?, ← form, found]
      simp [none]
    have sorted := (positions_sound read).1.ordered.ascending
    rw [read]
    refine congrArg some (sorted.eq_of_mem_iff ascending fun position => ?_)
    rw [mem_of_list, listed_iff each, listed]

/-! ## Entries -/

/-- A segment is read as an entry exactly if its trimmed text has a name, and what follows the first name on
its line spells positions; the entry is that name and these positions. There is a name exactly if a run before
the last one has something before a final colon, and it is the first such run that counts: where what follows
it spells no positions, nothing is read. The search for the form of an entry comes to the same end. -/
theorem reading_is_grammar (segment : Text) :
    (∀ entry, Entry.read? segment = some entry ↔ ∃ before gap rest,
      Named (Text.trim segment) before entry.doc gap rest ∧
        Spells (rest.takeWhile (· != '\n')) entry.positions) ∧
      ((∃ before doc gap rest, Named (Text.trim segment) before doc gap rest) ↔
        ∃ run ∈ (Text.words (Text.trim segment)).dropLast, Entry.isName run = true) ∧
      (∀ before doc gap rest, Named (Text.trim segment) before doc gap rest →
        (∀ positions, ¬ Spells (rest.takeWhile (· != '\n')) positions) →
          Entry.read? segment = none) ∧
      Entry.read? segment = (leftmost? (Text.trim segment)).bind fun (doc, raw) =>
        (Entry.positions? raw).map (Entry.mk doc) := by
  have reading : Entry.read? segment = (Entry.cut? (Text.trim segment)).bind fun (doc, raw) =>
      (Entry.positions? raw).map (Entry.mk doc) := by
    unfold Entry.read?
    cases Entry.cut? (Text.trim segment) <;> rfl
  refine ⟨fun entry => ?_, named_iff, fun before doc gap rest named bad => ?_, ?_⟩
  · constructor
    · intro read
      rw [reading] at read
      obtain ⟨⟨doc, raw⟩, cut, spelled⟩ := Option.bind_eq_some_iff.mp read
      obtain ⟨positions, found, rfl⟩ := Option.map_eq_some_iff.mp spelled
      obtain ⟨before, gap, rest, named, rfl⟩ := cut_iff.mp cut
      exact ⟨before, gap, rest, named, positions_iff.mp found⟩
    · rintro ⟨before, gap, rest, named, spells⟩
      rw [reading, cut_of_named named, Option.bind_some]
      dsimp only
      rw [positions_iff.mpr spells]
      rfl
  · rw [reading, cut_of_named named, Option.bind_some, Option.map_eq_none_iff]
    cases found : Entry.positions? (rest.takeWhile (· != '\n')) with
    | none => rfl
    | some positions => exact absurd (positions_iff.mp found) (bad positions)
  · rw [reading, leftmost_is_cut trim_last]

/-- A name may have colons in it, the words before it and the lines after it do not count, and positions
are sorted. -/
theorem crowded_segment : ∃ before gap rest,
    Named (Text.trim " see a:b:: 3, 1,1\nz: 2".toList) before "a:b:".toList gap rest ∧
      Spells (rest.takeWhile (· != '\n')) [1, 3] :=
  ((reading_is_grammar " see a:b:: 3, 1,1\nz: 2".toList).1 ⟨"a:b:".toList, [1, 3]⟩).mp
    (by decide +kernel)

example : Entry.read? "x: y: 1".toList = none := by decide +kernel

end Concordance.EntryGrammar
