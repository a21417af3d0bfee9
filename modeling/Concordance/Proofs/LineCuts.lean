import Concordance.Text.Lines
import Concordance.Proofs.TextCuts

/-!
Lines that are written are the lines that are read, as long as none of them holds a line end. Whatever
is read, a line without its end holds none.
-/
namespace Concordance.LineCuts
open TextCuts

variable {t line : Text}

/-- Without carriage returns there is nothing to unify. -/
theorem unify_of_free (free : '\r' ∉ t) : Text.unifyNewlines t = t := by
  fun_induction Text.unifyNewlines t with
  | case1 => rfl
  | case2 => simp at free
  | case3 => simp at free
  | case4 c rest _ _ ih => rw [ih fun member => free (by simp [member])]

theorem unified_no_return (t : Text) : '\r' ∉ Text.unifyNewlines t := by
  fun_induction Text.unifyNewlines t with
  | case1 => exact List.not_mem_nil
  | case2 rest ih => simp [ih]
  | case3 rest _ ih => simp [ih]
  | case4 c rest _ plain ih =>
    have other : '\r' ≠ c := fun same => plain same.symm
    simp [ih, other]

/-- A text is without line ends exactly if it has neither of the two characters. -/
theorem clear_iff : (∀ c ∈ t, Text.isLineEnd c = false) ↔ '\n' ∉ t ∧ '\r' ∉ t := by
  constructor
  · intro clear
    exact ⟨fun feed => absurd (clear '\n' feed) (by decide),
      fun turn => absurd (clear '\r' turn) (by decide)⟩
  · rintro ⟨noFeed, noReturn⟩ c member
    have notFeed : c ≠ '\n' := fun same => noFeed (same ▸ member)
    have notReturn : c ≠ '\r' := fun same => noReturn (same ▸ member)
    simp [Text.isLineEnd, notFeed, notReturn]

theorem blank_of_line_end {c : Char} (ends : Text.isLineEnd c = true) : Text.isBlank c = true := by
  obtain rfl | rfl : c = '\r' ∨ c = '\n' := by simpa [Text.isLineEnd] using ends
  · decide
  · decide

/-- Line ends separate words in any of their forms, so unifying them leaves the words alone. -/
theorem words_unify (t : Text) : Text.words (Text.unifyNewlines t) = Text.words t := by
  have feed : Text.isBlank '\n' = true := by decide
  have turn : Text.isBlank '\r' = true := by decide
  -- A word may have begun before the line end, so what stands there is kept along.
  have run (before : Text) : Text.words (before ++ Text.unifyNewlines t) = Text.words (before ++ t) := by
    fun_induction Text.unifyNewlines t generalizing before with
    | case1 => rfl
    | case2 rest ih =>
      rw [words_around_blank feed, words_around_blank turn, words_blank feed]
      exact congrArg _ (ih [])
    | case3 rest _ ih =>
      rw [words_around_blank feed, words_around_blank turn]
      exact congrArg _ (ih [])
    | case4 c rest _ _ ih =>
      rw [List.append_cons, List.append_cons before c rest]
      exact ih (before ++ [c])
  exact run []

/-- The first line ends at the first line feed. -/
theorem lines_at_first (free : '\n' ∉ line) (rest : Text) :
    Text.linesKeepingEnds (line ++ '\n' :: rest) =
      (line ++ ['\n']) :: Text.linesKeepingEnds rest := by
  induction line with
  | nil => simp [Text.linesKeepingEnds]
  | cons c line ih =>
    have other : c ≠ '\n' := fun same => free (by simp [same])
    simp [Text.linesKeepingEnds, other, ih fun member => free (by simp [member])]

/-- Without a line feed a text is one line, if it is anything. -/
theorem lines_of_free (some : line ≠ []) (free : '\n' ∉ line) :
    Text.linesKeepingEnds line = [line] := by
  induction line with
  | nil => exact absurd rfl some
  | cons c rest ih =>
    have other : c ≠ '\n' := fun same => free (by simp [same])
    cases rest with
    | nil => simp [Text.linesKeepingEnds, other]
    | cons next rest =>
      rw [Text.linesKeepingEnds, if_neg other,
        ih (by simp) fun member => free (List.mem_cons_of_mem c member)]

/-- Lines that were put together one after the other are found again. -/
theorem lines_of_ended {lines : List Text} (free : ∀ line ∈ lines, '\n' ∉ line) :
    Text.linesKeepingEnds (lines.map (· ++ ['\n'])).flatten = lines.map (· ++ ['\n']) := by
  induction lines with
  | nil => rfl
  | cons line rest ih =>
    obtain ⟨here, later⟩ := List.forall_mem_cons.mp free
    rw [List.map_cons, List.flatten_cons, List.append_assoc, List.singleton_append,
      lines_at_first here, ih later]

/-- One more character in front is a line of its own or lengthens the first one. -/
private theorem mem_lines_cons {c : Char} (member : line ∈ Text.linesKeepingEnds (c :: t)) :
    line ∈ Text.linesKeepingEnds t ∨ line = [c] ∨
      c ≠ '\n' ∧ ∃ tail ∈ Text.linesKeepingEnds t, line = c :: tail := by
  simp only [Text.linesKeepingEnds] at member
  split at member
  · rename_i feed
    exact (List.mem_cons.mp member).symm.imp_right fun same => .inl (feed ▸ same)
  · rename_i other
    split at member
    · exact .inr (.inl (List.mem_singleton.mp member))
    · rename_i first lines split
      rw [split]
      cases List.mem_cons.mp member with
      | inl same => exact .inr (.inr ⟨other, first, by simp, same⟩)
      | inr later => exact .inl (by simp [later])

/-- A line has a line feed at its end or nowhere. -/
private theorem line_body (member : line ∈ Text.linesKeepingEnds t) :
    ∃ body, '\n' ∉ body ∧ (∀ c ∈ body, c ∈ t) ∧ (line = body ∨ line = body ++ ['\n']) := by
  induction t generalizing line with
  | nil => cases member
  | cons c rest ih =>
    have wider {body : Text} (within : ∀ c ∈ body, c ∈ rest) : ∀ other ∈ body, other ∈ c :: rest :=
      fun other inside => List.mem_cons_of_mem c (within other inside)
    obtain later | rfl | ⟨other, tail, later, rfl⟩ := mem_lines_cons member
    · obtain ⟨body, free, within, shape⟩ := ih later
      exact ⟨body, free, wider within, shape⟩
    · by_cases feed : c = '\n'
      · exact ⟨[], by simp, by simp, .inr (by simp [feed])⟩
      · exact ⟨[c], by simp [Ne.symm feed], by simp, .inl rfl⟩
    · obtain ⟨body, free, within, shape⟩ := ih later
      refine ⟨c :: body, by simp [Ne.symm other, free], ?_, ?_⟩
      · exact List.forall_mem_cons.mpr ⟨List.mem_cons_self, wider within⟩
      · exact shape.imp (congrArg (c :: ·)) (congrArg (c :: ·))

theorem chomp_ended (free : ∀ c ∈ t, Text.isLineEnd c = false) : Text.chomp (t ++ ['\n']) = t := by
  unfold Text.chomp
  rw [drop_end_append _ (by simp [Text.isLineEnd]),
    drop_end_of_last fun c found => free c (List.mem_of_getLast? found)]

/-- A line without its end holds no line end, once the line ends have been unified. -/
theorem chomped_free (member : line ∈ Text.linesKeepingEnds (Text.unifyNewlines t)) :
    ∀ c ∈ Text.chomp line, Text.isLineEnd c = false := by
  obtain ⟨body, noFeed, within, shape⟩ := line_body member
  have free : ∀ c ∈ body, Text.isLineEnd c = false :=
    clear_iff.mpr ⟨noFeed, fun turn => unified_no_return t (within '\r' turn)⟩
  have bare : Text.chomp line = body := by
    cases shape with
    | inl same =>
      rw [same, Text.chomp, drop_end_of_last fun c found => free c (List.mem_of_getLast? found)]
    | inr ended => rw [ended, chomp_ended free]
  rw [bare]
  exact free

end Concordance.LineCuts
