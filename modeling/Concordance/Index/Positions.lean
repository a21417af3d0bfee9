/-!
Lists of positions in ascending order, each position once.
-/
namespace Concordance.Positions

/-- Adds a position at its place; one that is there already is not repeated. -/
def insert (position : Int) : List Int → List Int
  | [] => [position]
  | first :: rest =>
    if position < first then position :: first :: rest
    else if position = first then first :: rest
    else first :: insert position rest

/-- The positions in ascending order without repetition. -/
def ofList (positions : List Int) : List Int :=
  positions.foldl (fun sorted position => insert position sorted) []

theorem mem_insert {position other : Int} {positions : List Int} :
    other ∈ insert position positions ↔ other = position ∨ other ∈ positions := by
  induction positions with
  | nil => simp [insert]
  | cons first rest ih =>
    simp only [insert]
    split
    · simp
    · split
      next same => simp [same]
      next => simp [ih, or_left_comm]

/-- Insertion keeps positions strictly ascending. -/
theorem pairwise_insert {position : Int} {positions : List Int}
    (ascending : positions.Pairwise (· < ·)) : (insert position positions).Pairwise (· < ·) := by
  induction positions with
  | nil => simp [insert]
  | cons first rest ih =>
    obtain ⟨least, tail⟩ := List.pairwise_cons.mp ascending
    simp only [insert]
    split
    next below =>
      refine List.pairwise_cons.mpr ⟨fun other member => ?_, ascending⟩
      cases List.mem_cons.mp member with
      | inl same => exact same ▸ below
      | inr later => exact Int.lt_trans below (least other later)
    next notBelow =>
      split
      · exact ascending
      next other =>
        refine List.pairwise_cons.mpr ⟨fun next member => ?_, ih tail⟩
        cases mem_insert.mp member with
        | inl same => subst same; omega
        | inr later => exact least next later

end Concordance.Positions
