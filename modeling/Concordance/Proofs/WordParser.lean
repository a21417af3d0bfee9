import Concordance.Proofs.TextCuts
import Concordance.Query.Parser

/-!
Parsing a query word by word. The parser looks for an operator as a piece of text with a space on both
sides, so neighbouring operators share a space and a keyword may be part of a longer word. On words that
are joined by single spaces it does what a parser of word lists does: it splits at the first place at
which an operator's words stand with a word before them and a word after them.
-/
namespace Concordance.WordParser
open TextCuts

/-! ## Splitting a list of words -/

/-- The words of an operator stand at a place, with a word before them and a word after them. -/
def StandsAt (operator : Operator) (ts : List Text) (i : Nat) : Prop :=
  1 ≤ i ∧ i + operator.words.length < ts.length ∧ operator.words <+: ts.drop i

instance (operator : Operator) (ts : List Text) (i : Nat) : Decidable (StandsAt operator ts i) :=
  inferInstanceAs (Decidable (_ ∧ _ ∧ _))

/-- The first place at which an operator stands. -/
def place? (operator : Operator) (ts : List Text) : Option Nat :=
  (List.range ts.length).find? fun i => StandsAt operator ts i

/-- The first operator in the order of priority that stands somewhere, with its first place. -/
def split? (ts : List Text) : Option (Operator × Nat) :=
  Operator.priority.findSome? fun operator => (place? operator ts).map fun i => (operator, i)

theorem place_stands {operator : Operator} {ts : List Text} {i : Nat}
    (found : place? operator ts = some i) : StandsAt operator ts i := by
  simpa using List.find?_some found

theorem split_place {operator : Operator} {ts : List Text} {i : Nat}
    (found : split? ts = some (operator, i)) : place? operator ts = some i := by
  obtain ⟨other, _, mapped⟩ := List.exists_of_findSome?_eq_some found
  obtain ⟨place, here, same⟩ := Option.map_eq_some_iff.mp mapped
  cases same
  exact here

/-- From the place of the split, a list goes on with the words of the operator. -/
private theorem split_whole {operator : Operator} {ts : List Text} {i : Nat}
    (found : split? ts = some (operator, i)) :
    operator.words ++ ts.drop (i + operator.words.length) = ts.drop i := by
  obtain ⟨_, _, tail, whole⟩ := place_stands (split_place found)
  rw [← List.drop_drop, ← whole, List.drop_left]

/-- The tree of a list of words. -/
def parse (ts : List Text) : Query :=
  match _found : split? ts with
  | none => .phrase (Text.join [' '] ts)
  | some (operator, i) =>
    .node operator (parse (ts.take i)) (parse (ts.drop (i + operator.words.length)))
termination_by ts.length
decreasing_by
  · have stands := place_stands (split_place _found)
    simp only [StandsAt] at stands
    simp only [List.length_take]
    omega
  · have stands := place_stands (split_place _found)
    simp only [StandsAt] at stands
    simp only [List.length_drop]
    omega

/-! ## Occurrences in the joined text -/

/-- A cut skips a word that does not hold the mark's first character. -/
private theorem cut_skip {c : Char} {mark word : Text} (absent : c ∉ word) (t : Text) :
    Text.cutAt? (c :: mark) (word ++ t) =
      (Text.cutAt? (c :: mark) t).map fun (before, after) => (word ++ before, after) := by
  induction word with
  | nil => simp
  | cons first rest ih =>
    have different : c ≠ first := fun same => absent (List.mem_cons.mpr (.inl same))
    have later : c ∉ rest := fun member => absent (by simp [member])
    rw [List.cons_append, Text.cutAt?, if_neg (by simp [different]), ih later, Option.map_map]
    rfl

/-- Two texts that go on with a space after a beginning without spaces agree piece by piece. -/
private theorem prefix_word_iff {word other t u : Text} (clean : ' ' ∉ word)
    (cleanOther : ' ' ∉ other) :
    word ++ ' ' :: t <+: other ++ ' ' :: u ↔ word = other ∧ t <+: u := by
  induction word generalizing other with
  | nil =>
    cases other with
    | nil => simp [List.cons_prefix_cons]
    | cons d others =>
      have different : ' ' ≠ d := fun same => cleanOther (List.mem_cons.mpr (.inl same))
      simp [List.cons_prefix_cons, different]
  | cons c rest ih =>
    have later : ' ' ∉ rest := fun member => clean (by simp [member])
    cases other with
    | nil =>
      have different : c ≠ ' ' := fun same => clean (List.mem_cons.mpr (.inl same.symm))
      simp [List.cons_prefix_cons, different]
    | cons d others =>
      have laterOther : ' ' ∉ others := fun member => cleanOther (by simp [member])
      simp [List.cons_prefix_cons, ih later laterOther, and_assoc]

private theorem not_prefix_word {word other t : Text} (clean : ' ' ∉ other) :
    ¬ word ++ ' ' :: t <+: other := by
  intro ahead
  exact clean (ahead.subset (by simp))

/-- The joined marks, closed by a space, begin a joined list of words exactly if the marks begin the
list and a word follows them. -/
private theorem prefix_join_iff {marks ts : List Text} (some : marks ≠ [])
    (cleanMarks : ∀ mark ∈ marks, ' ' ∉ mark) (clean : ∀ word ∈ ts, ' ' ∉ word) :
    Text.join [' '] marks ++ [' '] <+: Text.join [' '] ts ↔
      marks <+: ts ∧ marks.length < ts.length := by
  induction marks generalizing ts with
  | nil => exact absurd rfl some
  | cons mark marks ih =>
    have cleanMark := cleanMarks mark (by simp)
    have laterMarks : ∀ mark ∈ marks, ' ' ∉ mark :=
      fun mark member => cleanMarks mark (by simp [member])
    cases ts with
    | nil => simp [Text.join]
    | cons word rest =>
      have cleanWord := clean word (by simp)
      have later : ∀ word ∈ rest, ' ' ∉ word := fun word member => clean word (by simp [member])
      by_cases lastWord : rest = []
      · subst lastWord
        refine iff_of_false ?_ (by simp)
        by_cases lastMark : marks = []
        · subst lastMark
          exact not_prefix_word cleanWord
        · rw [join_cons lastMark]
          simpa [Text.join] using not_prefix_word (t := Text.join [' '] marks ++ [' ']) cleanWord
      · rw [join_cons lastWord]
        by_cases lastMark : marks = []
        · subst lastMark
          have inside : 0 < rest.length := List.length_pos_iff.mpr lastWord
          simpa [Text.join, List.cons_prefix_cons, inside] using
            prefix_word_iff (t := []) (u := Text.join [' '] rest) cleanMark cleanWord
        · rw [join_cons lastMark]
          have step := prefix_word_iff (t := Text.join [' '] marks ++ [' '])
            (u := Text.join [' '] rest) cleanMark cleanWord
          rw [ih lastMark laterMarks later] at step
          simpa [List.cons_prefix_cons, and_assoc] using step

/-- What follows the marks in a joined list of words. -/
private theorem drop_join {marks ts : List Text} (some : marks ≠ []) (ahead : marks <+: ts)
    (more : marks.length < ts.length) :
    (Text.join [' '] ts).drop (Text.join [' '] marks ++ [' ']).length =
      Text.join [' '] (ts.drop marks.length) := by
  obtain ⟨tail, rfl⟩ := ahead
  have nonempty : tail ≠ [] := by
    rintro rfl
    simp at more
  rw [join_append some nonempty, List.drop_left, List.drop_left]

private theorem words_nonempty (operator : Operator) : operator.words ≠ [] := by
  cases operator <;> simp [Operator.words]

private theorem words_clean (operator : Operator) : ∀ word ∈ operator.words, ' ' ∉ word := by
  cases operator <;> decide

private theorem stands_succ {operator : Operator} {word : Text} {rest : List Text} {j : Nat} :
    StandsAt operator (word :: rest) (j + 1) ↔
      j + operator.words.length < rest.length ∧ operator.words <+: rest.drop j := by
  unfold StandsAt
  rw [List.length_cons, List.drop_succ_cons]
  exact ⟨fun ⟨_, inside, ahead⟩ => ⟨by omega, ahead⟩,
    fun ⟨inside, ahead⟩ => ⟨by omega, by omega, ahead⟩⟩

/-- The first place of an operator is the second word, or is found among the words after the first. -/
private theorem place_cons (operator : Operator) (word : Text) (rest : List Text) :
    place? operator (word :: rest) =
      if operator.words <+: rest ∧ operator.words.length < rest.length then some 1
      else (place? operator rest).map (· + 1) := by
  have none : ¬ StandsAt operator (word :: rest) 0 := fun stands => Nat.not_succ_le_zero 0 stands.1
  unfold place?
  rw [List.length_cons, List.range_succ_eq_map, List.find?_cons_of_neg (by simpa using none),
    List.find?_map]
  split
  · rename_i here
    obtain ⟨n, length⟩ : ∃ n, rest.length = n + 1 := ⟨rest.length - 1, by omega⟩
    have stands : StandsAt operator (word :: rest) (0 + 1) :=
      stands_succ.mpr ⟨by omega, by simpa using here.1⟩
    rw [length, List.range_succ_eq_map, List.find?_cons_of_pos (by simpa using stands)]
    rfl
  · rename_i absent
    have same : ((fun i => decide (StandsAt operator (word :: rest) i)) ∘ Nat.succ) =
        fun i => decide (StandsAt operator rest i) := by
      funext j
      apply decide_eq_decide.mpr
      change StandsAt operator (word :: rest) (j + 1) ↔ _
      rw [stands_succ]
      cases j with
      | zero =>
        refine iff_of_false (fun stands => absent ⟨by simpa using stands.2, by omega⟩) ?_
        exact fun stands => Nat.not_succ_le_zero 0 stands.1
      | succ j => simp [StandsAt]
    rw [same]

/-- The first occurrence of an operator in joined words is its first place in the list. -/
theorem cut_join (operator : Operator) {ts : List Text} (clean : ∀ word ∈ ts, ' ' ∉ word) :
    Text.cutAt? operator.delimited (Text.join [' '] ts) =
      (place? operator ts).map fun i =>
        (Text.join [' '] (ts.take i), Text.join [' '] (ts.drop (i + operator.words.length))) := by
  have mark : operator.delimited = ' ' :: (Text.join [' '] operator.words ++ [' ']) := rfl
  induction ts with
  | nil => rw [mark]; rfl
  | cons word rest ih =>
    have cleanWord := clean word (by simp)
    have later : ∀ word ∈ rest, ' ' ∉ word := fun word member => clean word (by simp [member])
    by_cases last : rest = []
    · subst last
      have skipped : Text.cutAt? (' ' :: (Text.join [' '] operator.words ++ [' '])) (word ++ []) =
          _ := cut_skip cleanWord []
      rw [place_cons, if_neg (by simp), mark]
      simpa [Text.join, Text.cutAt?, place?] using skipped
    · rw [join_cons last, place_cons, List.append_assoc, mark, cut_skip cleanWord,
        List.singleton_append, Text.cutAt?]
      have begins : (' ' :: (Text.join [' '] operator.words ++ [' '])).isPrefixOf
          (' ' :: Text.join [' '] rest) = true ↔
            operator.words <+: rest ∧ operator.words.length < rest.length := by
        rw [List.isPrefixOf_iff_prefix, List.cons_prefix_cons]
        simpa using prefix_join_iff (words_nonempty operator) (words_clean operator) later
      by_cases here : operator.words <+: rest ∧ operator.words.length < rest.length
      · rw [if_pos (begins.mpr here), if_pos here, List.length_cons, List.drop_succ_cons,
          drop_join (words_nonempty operator) here.1 here.2]
        simp [Text.join, Nat.add_comm 1]
      · rw [if_neg (mt begins.mp here), if_neg here, ← mark, ih later]
        cases found : place? operator rest with
        | none => rfl
        | some i =>
          -- The place is not the first one, so words remain in front of it.
          have before : rest.take i ≠ [] := by
            have positive := (place_stands found).1
            simp only [ne_eq, List.take_eq_nil_iff, last, or_false]
            omega
          have shifted : (word :: rest).drop (i + 1 + operator.words.length) =
              rest.drop (i + operator.words.length) := by
            rw [Nat.add_right_comm, List.drop_succ_cons]
          simp [join_cons before, shifted]

/-- Both parsers find the same operator at the same place. -/
private theorem split_joined {ts : List Text} (clean : ∀ word ∈ ts, ' ' ∉ word) :
    Query.split? (Text.join [' '] ts) =
      (split? ts).map fun (operator, i) =>
        (operator, Text.join [' '] (ts.take i),
          Text.join [' '] (ts.drop (i + operator.words.length))) := by
  unfold Query.split? split?
  rw [List.map_findSome?]
  congr 1
  funext operator
  rw [Function.comp_apply, cut_join operator clean, Option.map_map, Option.map_map]
  rfl

private theorem proper_take {ts : List Text} (proper : ∀ word ∈ ts, IsWord word) (i : Nat) :
    ∀ word ∈ ts.take i, IsWord word := fun word member => proper word (List.mem_of_mem_take member)

private theorem proper_drop {ts : List Text} (proper : ∀ word ∈ ts, IsWord word) (i : Nat) :
    ∀ word ∈ ts.drop i, IsWord word := fun word member => proper word (List.mem_of_mem_drop member)

/-- The parser of texts does on joined words what the parser of word lists does. -/
theorem parse_join {ts : List Text} (proper : ∀ word ∈ ts, IsWord word) :
    Query.parse (Text.join [' '] ts) = parse ts := by
  fun_induction parse ts with
  | case1 ts none =>
    have agree := split_joined fun word member => word_no_space (proper word member)
    rw [none] at agree
    unfold Query.parse
    split
    · rw [trim_join proper]
    · rename_i found
      rw [agree] at found
      cases found
  | case2 ts operator i found leftIH rightIH =>
    have agree := split_joined fun word member => word_no_space (proper word member)
    rw [found] at agree
    have properLeft := proper_take proper i
    have properRight := proper_drop proper (i + operator.words.length)
    unfold Query.parse
    split
    · rename_i none
      rw [agree] at none
      cases none
    · rename_i cut
      rw [agree] at cut
      cases cut
      rw [trim_join properLeft, trim_join properRight, leftIH properLeft, rightIH properRight]

/-! ## Words of a tree -/

/-- The words of a query in order, those of its operators included. -/
def spelling : Query → List Text
  | .phrase t => Text.words t
  | .node operator left right => spelling left ++ operator.words ++ spelling right

/-- A query stands in a tree: it is the tree, or stands in one of its sides. -/
inductive Within (part : Query) : Query → Prop where
  | here : Within part part
  | left {operator : Operator} {left right : Query} :
      Within part left → Within part (.node operator left right)
  | right {operator : Operator} {left right : Query} :
      Within part right → Within part (.node operator left right)

/-- No word of a list is lost, repeated or moved by parsing it. -/
theorem spelling_parse {ts : List Text} (proper : ∀ word ∈ ts, IsWord word) :
    spelling (parse ts) = ts := by
  fun_induction parse ts with
  | case1 ts none => exact words_join proper
  | case2 ts operator i found leftIH rightIH =>
    have properLeft := proper_take proper i
    have properRight := proper_drop proper (i + operator.words.length)
    rw [spelling, leftIH properLeft, rightIH properRight, List.append_assoc, split_whole found,
      List.take_append_drop]

/-- The place of an operator in the order in which operators are looked for. -/
def rank (operator : Operator) : Nat := Operator.priority.idxOf operator

/-- A search through the operators stops at the first one that is there. -/
theorem earlier_absent {α : Type} {f : Operator → Option α} {operator other : Operator} {a : α}
    (found : (Operator.priority.findSome? fun operator => (f operator).map fun a => (operator, a)) =
      some (operator, a))
    (earlier : rank other < rank operator) : f other = none := by
  obtain ⟨before, stopped, after, order, here, missed⟩ := List.findSome?_eq_some_iff.mp found
  obtain ⟨value, present, same⟩ := Option.map_eq_some_iff.mp here
  cases same
  have fresh : operator ∉ before := by
    intro member
    have skipped := missed operator member
    rw [present] at skipped
    cases skipped
  have place : rank operator = before.length := by
    rw [rank, order, List.idxOf_append, if_neg fresh, List.idxOf_cons_self, Nat.zero_add]
  have member : other ∈ before := by
    by_cases member : other ∈ before
    · exact member
    · rw [place, rank, order, List.idxOf_append, if_neg member] at earlier
      omega
  simpa using missed other member

/-- Below any node of the tree of a list of words, the sides are trees of lists of words. -/
private theorem within_parse {ts : List Text} {operator : Operator} {left right : Query}
    (proper : ∀ word ∈ ts, IsWord word) (within : Within (.node operator left right) (parse ts)) :
    ∃ part : List Text, (∀ word ∈ part, IsWord word) ∧ ∃ i, split? part = some (operator, i) ∧
      right = parse (part.drop (i + operator.words.length)) := by
  fun_induction parse ts with
  | case1 ts none => cases within
  | case2 ts other i found leftIH rightIH =>
    cases within with
    | here => exact ⟨ts, proper, i, found, rfl⟩
    | left within => exact leftIH (proper_take proper i) within
    | right within => exact rightIH (proper_drop proper _) within

/-- A keyword of one word is not taken where its form with `not` stands. -/
private theorem no_not_after {ts : List Text} {operator : Operator} {i : Nat} (negated : Operator)
    (found : split? ts = some (operator, i)) (earlier : rank negated < rank operator)
    (negation : negated.words = operator.words ++ ["not".toList]) (word : Text) (rest : List Text) :
    ts.drop (i + operator.words.length) ≠ "not".toList :: word :: rest := by
  intro follows
  have absent := earlier_absent found earlier
  obtain ⟨positive, inside, _⟩ := place_stands (split_place found)
  have whole := split_whole found
  rw [follows] at whole
  have stands : StandsAt negated ts i := by
    refine ⟨positive, ?_, ⟨word :: rest, ?_⟩⟩
    · have length := congrArg List.length whole
      simp only [List.length_append, List.length_cons, List.length_drop] at length
      rw [negation]
      simp only [List.length_append, List.length_cons, List.length_nil]
      omega
    · rw [negation, ← whole]
      simp
  have listed : i ∈ List.range ts.length := List.mem_range.mpr (by omega)
  unfold place? at absent
  exact List.find?_eq_none.mp absent i listed (by simpa using stands)

/-- On words joined by single spaces, the parser of texts and the parser of word lists give the same
tree; and a two-word operator with words around it is never taken for its first word. -/
theorem joined_words_parse_by_words (ts : List Text) (proper : ∀ word ∈ ts, IsWord word) :
    Query.parse (Text.join [' '] ts) = parse ts ∧
      ∀ operator left right,
        Within (.node operator left right) (Query.parse (Text.join [' '] ts)) →
          operator = .and ∨ operator = .or →
            ∀ word rest, spelling right ≠ "not".toList :: word :: rest := by
  refine ⟨parse_join proper, ?_⟩
  intro operator left right within short word rest
  rw [parse_join proper] at within
  obtain ⟨part, properPart, i, found, rfl⟩ := within_parse proper within
  rw [spelling_parse (proper_drop properPart _)]
  rcases short with rfl | rfl
  · exact no_not_after .andNot found (by decide) rfl word rest
  · exact no_not_after .orNot found (by decide) rfl word rest

/-- The longer operator takes the space that two keywords share, and a keyword without a word on both
sides stays a word. -/
theorem shared_space_goes_to_negation :
    (∀ word ∈ [['a'], "and".toList, "and".toList, "not".toList, "not".toList, ['b'], "or".toList, ['c']],
        IsWord word) ∧
      Query.parse "a and and not not b or c".toList =
        .node .andNot (.phrase "a and".toList)
          (.node .or (.phrase "not b".toList) (.phrase ['c'])) := by
  have proper : ∀ word ∈ [['a'], "and".toList, "and".toList, "not".toList, "not".toList, ['b'],
      "or".toList, ['c']], IsWord word := by decide
  exact ⟨proper, (joined_words_parse_by_words _ proper).1.trans (by decide +kernel)⟩

end Concordance.WordParser
