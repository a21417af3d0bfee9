import Concordance.Proofs.LineCuts
import Concordance.Query.Lines

/-!
What reading a stream of queries comes to. The lines of a text are said without a reader; a stream gives each
of them once, in order and without its end, and is asked once more to find that nothing is left.
-/
namespace Concordance.QueryReading

open LineCuts TextCuts QueryLines

variable {t line rest : Text} {lines : List Text}

/-- The lines of a text. Each ends at its line feed; what stands behind the last line feed is a line of its
own, unless it is nothing. -/
inductive Lines : Text → List Text → Prop where
  | none : Lines [] []
  | unended {line : Text} (some : line ≠ []) (free : '\n' ∉ line) : Lines line [line]
  | ended (line : Text) {rest : Text} {lines : List Text} (free : '\n' ∉ line) (more : Lines rest lines) :
      Lines (line ++ '\n' :: rest) ((line ++ ['\n']) :: lines)

/-! ## Lines -/

/-- A character in front belongs to the first line, unless it ends a line itself. -/
theorem lines_keeping_ends (t : Text) : Lines t (Text.linesKeepingEnds t) := by
  induction t with
  | nil => exact .none
  | cons c rest ih =>
    simp only [Text.linesKeepingEnds]
    split
    · rename_i feed
      subst feed
      exact .ended [] (by simp) ih
    · rename_i other
      split
      · rename_i noLines
        rw [noLines] at ih
        cases ih
        exact .unended (by simp) (by simpa using Ne.symm other)
      · rename_i first others split
        rw [split] at ih
        cases ih with
        | unended some free =>
          exact .unended (by simp) (by simpa using ⟨Ne.symm other, free⟩)
        | ended line free more =>
          exact .ended (c :: line) (by simpa using ⟨Ne.symm other, free⟩) more

/-- A text has one way to be lines. -/
theorem lines_unique (spec : Lines t lines) : lines = Text.linesKeepingEnds t := by
  induction spec with
  | none => rfl
  | unended some free => exact (lines_of_free some free).symm
  | ended _ free _ ih => rw [lines_at_first free, ih]

/-! ## Reading one line -/

theorem take_ended (free : '\n' ∉ line) (rest : Text) :
    takeLine (line ++ '\n' :: rest) = (line ++ ['\n'], rest) := by
  induction line with
  | nil => rfl
  | cons c line ih =>
    have other : c ≠ '\n' := fun same => free (by simp [same])
    simp [takeLine, other, ih fun member => free (by simp [member])]

theorem take_unended (free : '\n' ∉ line) : takeLine line = (line, []) := by
  induction line with
  | nil => rfl
  | cons c line ih =>
    have other : c ≠ '\n' := fun same => free (by simp [same])
    simp [takeLine, other, ih fun member => free (by simp [member])]

/-! ## Reading to the end -/

/-- Reading stops at an empty line only. -/
theorem events_ended : events [] = [.asked] := by rw [events]; rfl

theorem events_step {line left : Text} (some : line ≠ []) (taken : takeLine t = (line, left)) :
    events t = .asked :: .query (Text.chomp line) :: events left := by
  obtain ⟨c, line, rfl⟩ := List.exists_cons_of_ne_nil some
  rw [events]
  split
  · rename_i none
    rw [taken] at none
    cases none
  · rename_i step
    rw [taken] at step
    cases step
    rfl

/-- A whole reading: each line is asked for and gives its query, and the last time there is none. -/
theorem events_of_lines (spec : Lines t lines) :
    events t = lines.flatMap (fun line => [.asked, .query (Text.chomp line)]) ++ [.asked] := by
  induction spec with
  | none => exact events_ended
  | unended some free => rw [events_step some (take_unended free), events_ended]; rfl
  | ended _ free _ ih => rw [events_step (by simp) (take_ended free _), ih]; rfl

theorem queries_of_lines (spec : Lines t lines) : ofText t = lines.map Text.chomp := by
  rw [ofText, events_of_lines spec, List.filterMap_append, List.filterMap_flatMap,
    List.map_eq_flatMap]
  exact List.append_nil _

theorem reads_of_lines (spec : Lines t lines) : reads t = lines.length + 1 := by
  have once (line : Text) : [Event.asked, .query (Text.chomp line)].count .asked = 1 := rfl
  have counts : lines.map (List.count .asked ∘ fun line => [Event.asked, .query (Text.chomp line)]) =
      List.replicate lines.length 1 := by
    rw [← List.map_const']
    exact List.map_congr_left fun line _ => once line
  rw [reads, events_of_lines spec, List.count_append, List.count_flatMap, counts,
    List.sum_replicate_nat, Nat.mul_one]
  rfl

theorem prompts_of_lines (prompt : Text) (spec : Lines t lines) :
    prompts prompt t = (List.replicate (lines.length + 1) prompt).flatten := by
  have once : ∀ line : Text,
      [Event.asked, .query (Text.chomp line)].flatMap (Event.prompted prompt) = prompt :=
    fun _ => List.append_nil _
  rw [prompts, events_of_lines spec, List.flatMap_append, List.flatMap_assoc, List.replicate_succ',
    List.flatten_append]
  simp [once, Event.prompted, List.flatMap_def, List.map_const']

/-- A text without lines is empty. -/
theorem lines_nil_iff (spec : Lines t lines) : lines = [] ↔ t = [] := by
  rw [lines_unique spec]
  constructor
  · intro none
    rw [← Text.flatten_linesKeepingEnds t, none, List.flatten_nil]
  · rintro rfl
    rfl

/-- Without carriage returns, the lines without their ends and with a line feed between them are the text, but
for a line feed that ends it. -/
theorem join_chomped (spec : Lines t lines) (plain : '\r' ∉ t) :
    Text.join ['\n'] (lines.map Text.chomp) ++ (if t.getLast? = some '\n' then ['\n'] else []) = t := by
  induction spec with
  | none => rfl
  | @unended line _ free =>
    have clear := clear_iff.mpr ⟨free, plain⟩
    have bare : Text.chomp line = line :=
      drop_end_of_last fun c found => clear c (List.mem_of_getLast? found)
    rw [if_neg fun found => free (List.mem_of_getLast? found)]
    simp [Text.join, bare]
  | @ended line rest lines free more ih =>
    obtain ⟨plainLine, plainRest⟩ : '\r' ∉ line ∧ '\r' ∉ rest := by simpa using plain
    have bare : Text.chomp (line ++ ['\n']) = line := chomp_ended (clear_iff.mpr ⟨free, plainLine⟩)
    rw [List.map_cons, bare]
    by_cases finished : rest = []
    · have none := (lines_nil_iff more).mpr finished
      subst finished none
      simp [Text.join]
    · have further : lines.map Text.chomp ≠ [] := by simpa [lines_nil_iff more] using finished
      have last : (line ++ '\n' :: rest).getLast? = rest.getLast? := by
        obtain ⟨c, others, rfl⟩ := List.exists_cons_of_ne_nil finished
        rw [List.getLast?_append, List.getLast?_cons_cons, List.getLast?_cons, Option.some_or]
      rw [join_cons further, last, List.append_assoc, ih plainRest]
      simp

/-- A stream gives its lines one by one as queries, each without its end, and also those that are blank or lack
an end. It is asked once more than it has lines, with a prompt each time. -/
theorem stream_gives_each_line_once (t : Text) :
    ∃ lines, (∀ others, Lines t others ↔ others = lines) ∧
      ofText t = lines.map Text.chomp ∧
      (∀ (k : Nat) line, lines[k]? = some line → (∀ c ∈ line, Text.isLineEnd c = true) →
        (ofText t)[k]? = some []) ∧
      ('\r' ∉ t →
        Text.join ['\n'] (ofText t) ++ (if t.getLast? = some '\n' then ['\n'] else []) = t) ∧
      events t = lines.flatMap (fun line => [.asked, .query (Text.chomp line)]) ++ [.asked] ∧
      reads t = (ofText t).length + 1 ∧
      ∀ prompt, prompts prompt t = (List.replicate ((ofText t).length + 1) prompt).flatten := by
  have spec := lines_keeping_ends t
  have queries := queries_of_lines spec
  have count : (ofText t).length = (Text.linesKeepingEnds t).length := by
    rw [queries, List.length_map]
  refine ⟨Text.linesKeepingEnds t, fun others => ⟨lines_unique, fun same => same ▸ spec⟩, queries,
    ?_, ?_, events_of_lines spec, ?_, ?_⟩
  · intro k line found blank
    rw [queries, List.getElem?_map, found]
    have none : Text.chomp line = [] := drop_end_append [] blank
    rw [Option.map_some, none]
  · intro plain
    rw [queries]
    exact join_chomped spec plain
  · rw [reads_of_lines spec, count]
  · intro prompt
    rw [prompts_of_lines prompt spec, count]

/-- A blank line between two others, and a last line without an end. -/
def blankBetween : Text := " a\n\nb".toList

/-- The blank line gives an empty query, and reading goes on behind it. -/
theorem blank_line_is_read : '\r' ∉ blankBetween ∧ (ofText blankBetween)[1]? = some [] ∧
    Text.join ['\n'] (ofText blankBetween) = blankBetween ∧
      prompts ['>'] blankBetween = ">>>>".toList := by
  obtain ⟨lines, spec, queries, blank, whole, -, -, written⟩ :=
    stream_gives_each_line_once blankBetween
  have split : [" a\n".toList, ['\n'], ['b']] = lines :=
    (spec _).mp (.ended " a".toList (by decide)
      (.ended [] (by decide) (.unended (by decide) (by decide))))
  have plain : '\r' ∉ blankBetween := by decide
  have unended : blankBetween.getLast? ≠ some '\n' := by decide
  subst split
  refine ⟨plain, blank 1 ['\n'] rfl (by simp [Text.isLineEnd]), ?_, ?_⟩
  · have joined := whole plain
    rwa [if_neg unended, List.append_nil] at joined
  · rw [written, queries]
    rfl

end Concordance.QueryReading
