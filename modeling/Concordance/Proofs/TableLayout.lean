import Mathlib.Data.List.Permutation
import Concordance.Proofs.CodePointOrder
import Concordance.Proofs.DecimalReading
import Concordance.Proofs.PostingContent
import Concordance.Proofs.SettingsBounds
import Concordance.Report.Table

/-!
Where a table shows what. Every cell is exactly as wide as its column, whatever is in it, so the cells of a
line are found by their places alone; and no cell holds a line feed, so the lines of a table are its rows.
-/
namespace Concordance.TableLayout

open CodePointOrder DecimalReading PostingContent Report TextCuts

variable {index : Index} {widths : Widths} {docs : List DocId} {term name t line : Text} {width : Int}

/-- A line of a table: a name in the first column, and values in the others, each at its place. -/
structure HasCells (widths : Widths) (line name : Text) (values : List Text) : Prop where
  first : line.take widths.term.toNat = cell widths.term name
  others : ∀ (j : Nat) value, values[j]? = some value →
    (line.drop (widths.term.toNat + j * widths.document.toNat)).take widths.document.toNat =
      cell widths.document value

/-- A table of an index: a heading with the documents in order, and a line for each term in order with what is
shown of it in each of these documents. All lines are of one length. -/
structure IsTable (index : Index) (widths : Widths) (docs : List DocId)
    (shown : Text → DocId → Text) (table : Text) : Prop where
  count : (Text.splitOn '\n' table).length = 1 + index.size
  length : ∀ line ∈ Text.splitOn '\n' table,
    (line.length : Int) = widths.term + widths.document * docs.length
  heading : ∃ line, (Text.splitOn '\n' table)[0]? = some line ∧
    HasCells widths line "Term".toList (Text.sorted docs)
  rows : ∀ (i : Nat) term, index.sortedTerms[i]? = some term →
    ∃ line, (Text.splitOn '\n' table)[i + 1]? = some line ∧
      HasCells widths line term ((Text.sorted docs).map (shown term))

/-- What is shown of how often a term occurs in a document. -/
def frequencyShown (index : Index) (term : Text) (doc : DocId) : Text :=
  if doc ∈ index.documentsContaining term then
    Integer.decimalNat (index.positionsOf term doc).length
  else ['0']

/-- What is shown of the weight of a term in a document. -/
def weightShown (index : Index) (term : Text) (doc : DocId) : Text :=
  if doc ∈ index.documentsContaining term then
    FloatText.fixed 4 (Weight.ofFrequency (index.positionsOf term doc).length *
      Weight.ofRarity (index.documentsContaining term).size index.documentCount)
  else ['0']

/-! ## Cells -/

/-- A cell is as wide as its column. Three places are taken by the dots of a text that is cut. -/
theorem length_cell (wide : 3 ≤ width) (t : Text) : ((cell width t).length : Int) = width := by
  unfold cell
  split
  · have place : ¬ width - 3 < 0 := by omega
    simp only [upTo, if_neg place, List.length_append, List.length_take, String.length_toList]
    have dots : "...".length = 3 := rfl
    omega
  · simp only [Text.padRight, List.length_append, List.length_replicate]
    omega

theorem cell_no_feed (free : '\n' ∉ t) : '\n' ∉ cell width t := by
  unfold cell
  split
  · rw [List.mem_append, not_or]
    exact ⟨fun member => free (List.mem_of_mem_take member), by decide⟩
  · rw [Text.padRight, List.mem_append, not_or]
    exact ⟨free, fun member => absurd (List.eq_of_mem_replicate member) (by decide)⟩

/-- Cells of one width that stand side by side are found again at its multiples. -/
theorem slice_of_cells {f : Text → Text} {w : Nat} {values : List Text} {j : Nat} {value : Text}
    (uniform : ∀ value, (f value).length = w) (found : values[j]? = some value) :
    ((values.flatMap f).drop (j * w)).take w = f value := by
  induction values generalizing j with
  | nil => cases found
  | cons first rest ih =>
    rw [List.flatMap_cons]
    cases j with
    | zero =>
      cases found
      rw [Nat.zero_mul, List.drop_zero, List.take_left' (uniform _)]
    | succ j =>
      rw [Nat.succ_mul, Nat.add_comm, ← List.drop_drop, List.drop_left' (uniform first)]
      exact ih found

private theorem nat_length_cell (wide : 3 ≤ width) (t : Text) :
    (cell width t).length = width.toNat := by
  have whole := length_cell wide t
  omega

/-- A line that is put together from cells is as wide as its columns. -/
theorem length_cells (termWide : 3 ≤ widths.term) (docWide : 3 ≤ widths.document) (name : Text)
    (values : List Text) :
    ((cell widths.term name ++ values.flatMap (cell widths.document)).length : Int) =
      widths.term + widths.document * values.length := by
  rw [List.length_append, List.length_flatMap,
    List.map_congr_left fun value _ => nat_length_cell docWide value, List.map_const',
    List.sum_replicate_nat, nat_length_cell termWide, Nat.mul_comm]
  push_cast
  rw [Int.toNat_of_nonneg (by omega), Int.toNat_of_nonneg (by omega)]

/-- A line that is put together from cells has them at their places. -/
theorem has_cells (termWide : 3 ≤ widths.term) (docWide : 3 ≤ widths.document) (name : Text)
    (values : List Text) :
    HasCells widths (cell widths.term name ++ values.flatMap (cell widths.document)) name values where
  first := List.take_left' (nat_length_cell termWide name)
  others := by
    intro j value found
    rw [← List.drop_drop, List.drop_left' (nat_length_cell termWide name),
      slice_of_cells (nat_length_cell docWide) found]

/-! ## Values -/

theorem decimal_no_feed (n : Nat) : '\n' ∉ Integer.decimalNat n :=
  fun member => absurd (decimal_nat_digit n '\n' member) (by decide)

private theorem positional_no_feed (markWhole : Bool) (d : Decimal) :
    '\n' ∉ FloatText.positional markWhole d := by
  unfold FloatText.positional
  split
  · rw [List.mem_append, not_or]
    refine ⟨decimal_no_feed _, ?_⟩
    cases markWhole <;> decide
  · -- Both parts are cut from the digits, which are filled up with zeros.
    have padded : ∀ width, '\n' ∉ Text.padLeft '0' width (Integer.decimalNat d.digits) := by
      intro width
      rw [Text.padLeft, List.mem_append, not_or]
      exact ⟨fun member => absurd (List.eq_of_mem_replicate member) (by decide),
        decimal_no_feed _⟩
    simp only [List.mem_append, List.mem_cons, not_or]
    exact ⟨fun member => padded _ (List.mem_of_mem_take member), by decide,
      fun member => padded _ (List.mem_of_mem_drop member)⟩

/-- A number with a set number of places is written on one line. -/
theorem fixed_no_feed (places : Nat) (x : Float) : '\n' ∉ FloatText.fixed places x := by
  have signed : ∀ negative, '\n' ∉ FloatText.sign negative := by decide
  unfold FloatText.fixed
  split
  · decide
  · rw [List.mem_append, not_or]
    exact ⟨signed _, by decide⟩
  · rw [List.mem_append, not_or]
    refine ⟨signed _, ?_⟩
    unfold FloatText.fixedMagnitude
    dsimp only
    split
    · exact decimal_no_feed _
    · exact positional_no_feed false _

private theorem frequency_no_feed (index : Index) (term : Text) (doc : DocId) :
    '\n' ∉ frequencyShown index term doc := by
  unfold frequencyShown
  split
  · exact decimal_no_feed _
  · decide

private theorem weight_no_feed (index : Index) (term : Text) (doc : DocId) :
    '\n' ∉ weightShown index term doc := by
  unfold weightShown
  split
  · exact fixed_no_feed _ _
  · decide

/-! ## Tables -/

/-- The statistics of a term that an index knows. -/
def statisticsOf (index : Index) (term : Text) : TermStatistics :=
  ⟨term, Weight.ofRarity (index.postingsOf term).size index.documentCount, index.postingsOf term⟩

/-- The rows of a table are those of the terms of the index in order. -/
private theorem sorted_statistics (index : Index) :
    sortedTerms (TermStatistics.ofIndex index) = index.sortedTerms.map (statisticsOf index) := by
  have keys : (TermStatistics.ofIndex index).keys = index.terms := Assoc.keys_mapValues _ _
  have each : ∀ term ∈ index.sortedTerms,
      (TermStatistics.ofIndex index).get? term = some (statisticsOf index term) := by
    intro term member
    have known : index.postings.contains term = true :=
      Assoc.contains_iff_mem_keys.mpr (mem_sorted.mp member)
    obtain ⟨docs, found⟩ := Option.isSome_iff_exists.mp known
    have listed : index.postingsOf term = docs := by rw [Index.postingsOf, found]; rfl
    rw [TermStatistics.ofIndex, Assoc.get?_mapValues, found, statisticsOf, listed]
    rfl
  rw [sortedTerms, keys]
  exact List.filterMap_eq_map_iff_forall_eq_some.mpr each

/-- What a row shows of its term in a document is what its postings say. -/
private theorem value_of_statistics {spell : TermStatistics → DocId → Text} (index : Index)
    (term : Text) (doc : DocId) :
    value spell (statisticsOf index term) doc =
      if doc ∈ index.documentsContaining term then spell (statisticsOf index term) doc else ['0'] := by
  have listed : (index.postingsOf term).contains doc = true ↔ doc ∈ index.documentsContaining term :=
    Assoc.contains_iff_mem_keys
  unfold value
  simp only [statisticsOf, listed]

/-- The line of a term in a table that shows something of it in each document. -/
def lineOf (widths : Widths) (docs : List DocId) (shown : Text → DocId → Text) (term : Text) : Text :=
  cell widths.term term ++ ((Text.sorted docs).map (shown term)).flatMap (cell widths.document)

private theorem matrix_lines (widths : Widths) (docs : List DocId)
    {spell : TermStatistics → DocId → Text} {shown : Text → DocId → Text}
    (agree : ∀ term doc, value spell (statisticsOf index term) doc = shown term doc) :
    matrix widths spell (TermStatistics.ofIndex index) docs =
      heading widths (Text.sorted docs) :: index.sortedTerms.map (lineOf widths docs shown) := by
  have each : ∀ term ∈ index.sortedTerms,
      row widths spell (Text.sorted docs) (statisticsOf index term) = lineOf widths docs shown term := by
    intro term _
    rw [row, lineOf, List.flatMap_map]
    simp only [agree]
    rfl
  rw [matrix, sorted_statistics, List.map_map]
  exact congrArg (heading widths (Text.sorted docs) :: ·) (List.map_congr_left each)

private theorem lines_free (widths : Widths) {shown : Text → DocId → Text}
    (termsFree : ∀ term ∈ index.terms, '\n' ∉ term) (docsFree : ∀ doc ∈ docs, '\n' ∉ doc)
    (shownFree : ∀ term doc, '\n' ∉ shown term doc) :
    ∀ line ∈ heading widths (Text.sorted docs) :: index.sortedTerms.map (lineOf widths docs shown),
      '\n' ∉ line := by
  have cellsFree : ∀ values : List Text, (∀ value ∈ values, '\n' ∉ value) →
      '\n' ∉ values.flatMap (cell widths.document) := by
    intro values free member
    obtain ⟨value, listed, inside⟩ := List.mem_flatMap.mp member
    exact cell_no_feed (free value listed) inside
  refine List.forall_mem_cons.mpr ⟨?_, List.forall_mem_map.mpr fun term member => ?_⟩
  · rw [heading, List.mem_append, not_or]
    exact ⟨cell_no_feed (by decide), cellsFree _ fun doc listed => docsFree doc (mem_sorted.mp listed)⟩
  · rw [lineOf, List.mem_append, not_or]
    exact ⟨cell_no_feed (termsFree term (mem_sorted.mp member)),
      cellsFree _ (List.forall_mem_map.mpr fun doc _ => shownFree term doc)⟩

/-- The table of values is one of the index, if neither names nor values hold a line feed. -/
private theorem matrix_is_table {spell : TermStatistics → DocId → Text} {shown : Text → DocId → Text}
    (termWide : 3 ≤ widths.term) (docWide : 3 ≤ widths.document)
    (termsFree : ∀ term ∈ index.terms, '\n' ∉ term) (docsFree : ∀ doc ∈ docs, '\n' ∉ doc)
    (shownFree : ∀ term doc, '\n' ∉ shown term doc)
    (agree : ∀ term doc, value spell (statisticsOf index term) doc = shown term doc) :
    IsTable index widths docs shown
      (Text.join ['\n'] (matrix widths spell (TermStatistics.ofIndex index) docs)) := by
  have split := split_join_plain (lines_free widths termsFree docsFree shownFree)
  have lines := matrix_lines widths docs agree
  rw [← lines] at split
  have columns : (Text.sorted docs).length = docs.length := List.length_mergeSort docs
  exact {
    count := by
      rw [split, lines, List.length_cons, List.length_map, Nat.add_comm, Index.sortedTerms,
        Text.sorted, List.length_mergeSort, Index.terms, Assoc.keys, List.length_map]
      rfl
    length := by
      rw [split, lines]
      refine List.forall_mem_cons.mpr ⟨?_, List.forall_mem_map.mpr fun term _ => ?_⟩
      · rw [heading, length_cells termWide docWide, columns]
      · rw [lineOf, length_cells termWide docWide, List.length_map, columns]
    heading := by
      refine ⟨heading widths (Text.sorted docs), by rw [split, lines]; rfl, ?_⟩
      exact has_cells termWide docWide _ _
    rows := by
      intro i term found
      refine ⟨lineOf widths docs shown term, ?_, has_cells termWide docWide term _⟩
      rw [split, lines, List.getElem?_cons_succ, List.getElem?_map, found, Option.map_some] }

/-- With columns of three places at least, both tables of an index have a line for each of its terms behind the
heading. All lines are of one length, and the values of a term stand at fixed places of its line, in the order
of the documents. No table is refused unless a column is wider than any text, and settings make columns wide
enough. -/
theorem tables_are_aligned (index : Index) (docs : List DocId) (widths : Widths)
    (termWide : 3 ≤ widths.term) (docWide : 3 ≤ widths.document)
    (termsFree : ∀ term ∈ index.terms, '\n' ∉ term) (docsFree : ∀ doc ∈ docs, '\n' ∉ doc) :
    IsTable index widths docs (frequencyShown index)
        (frequencies widths (TermStatistics.ofIndex index) docs) ∧
      IsTable index widths docs (weightShown index)
        (weights widths (TermStatistics.ofIndex index) docs) ∧
      (widths.check docs = .ok () ∨ widthLimit < widths.term ∨ widthLimit < widths.document) ∧
      ∀ environment tree settings, Settings.load environment tree = .ok settings →
        4 ≤ settings.termColumnWidth ∧ 4 ≤ settings.columnWidth := by
  refine ⟨?_, ?_, ?_, ?_⟩
  · refine matrix_is_table termWide docWide termsFree docsFree (frequency_no_feed index) ?_
    intro term doc
    rw [value_of_statistics]
    rfl
  · refine matrix_is_table termWide docWide termsFree docsFree (weight_no_feed index) ?_
    intro term doc
    have size : (index.documentsContaining term).size = (index.postingsOf term).size :=
      List.length_map Prod.fst
    rw [value_of_statistics, weightShown, size]
    rfl
  · by_cases fit : widths.term ≤ widthLimit ∧ widths.document ≤ widthLimit
    · exact .inl (if_pos (by simp [Widths.fit, fit.1, fit.2]))
    · omega
  · intro environment tree settings loaded
    have bounds := SettingsBounds.loaded_in_bounds loaded
    exact ⟨bounds.termColumn, bounds.column⟩

/-- A term that two documents have, one of them twice. -/
def shared : Index :=
  .ofLists [("elephant".toList, [(['b'], [1]), (['a'], [0, 3])])]

/-- Columns too narrow for the term and for the name of a document that does not have it. -/
def narrow : Widths := ⟨6, 5⟩

/-- Long names are cut, and the numbers stand below the documents in order. -/
theorem long_names_are_cut :
    (∀ term ∈ shared.terms, '\n' ∉ term) ∧
    (∀ doc ∈ [['b'], "zebras".toList, ['a']], '\n' ∉ doc) ∧
    (∃ line, (Text.splitOn '\n' (frequencies narrow (TermStatistics.ofIndex shared)
        [['b'], "zebras".toList, ['a']]))[1]? = some line ∧
      line.length = 21 ∧ line.take 6 = "ele...".toList ∧ (line.drop 6).take 5 = "2    ".toList ∧
      (line.drop 16).take 5 = "0    ".toList) ∧
    (Text.splitOn '\n' (weights narrow (TermStatistics.ofIndex shared)
        [['b'], "zebras".toList, ['a']])).length = 2 := by
  have termsFree : ∀ term ∈ shared.terms, '\n' ∉ term := by decide +kernel
  have docsFree : ∀ doc ∈ [['b'], "zebras".toList, ['a']], '\n' ∉ doc := by decide
  obtain ⟨frequencies, weights, -⟩ :=
    tables_are_aligned shared _ narrow (by decide) (by decide) termsFree docsFree
  obtain ⟨line, found, cells⟩ := frequencies.rows 0 "elephant".toList (by decide +kernel)
  have columns : Text.sorted [['b'], "zebras".toList, ['a']] = [['a'], ['b'], "zebras".toList] := by
    cbv
  rw [columns] at cells
  refine ⟨termsFree, docsFree, ⟨line, found, ?_, cells.first, ?_, ?_⟩, weights.count⟩
  · exact Int.ofNat.inj (frequencies.length line (List.mem_of_getElem? found))
  · exact cells.others 0 ['2'] (by decide +kernel)
  · exact cells.others 2 ['0'] (by decide +kernel)

end Concordance.TableLayout
