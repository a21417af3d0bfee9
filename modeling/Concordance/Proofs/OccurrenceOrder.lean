import Mathlib.Data.List.Forall2
import Mathlib.Data.List.Sort
import Concordance.Index.Loading
import Concordance.Proofs.DecimalReading
import Concordance.Proofs.FileBuilding
import Concordance.Proofs.LineCuts
import Concordance.Proofs.SamePostings

/-!
The order in which occurrences come into an index leaves no trace in its file. Indexes of the same
occurrences have the same postings, however often and in whatever order these came; and a file lists the
postings by term and document, each in code point order.
-/
namespace Concordance.OccurrenceOrder
open PostingContent CodePointOrder

variable {left right : List Occurrence} {index : Index} {term : Text} {doc : DocId}

/-! ## Postings -/

private theorem positions_alike (same : ∀ occurrence, occurrence ∈ left ↔ occurrence ∈ right)
    (term : Text) (doc : DocId) :
    (Index.ofOccurrences left).positionsOf term doc =
      (Index.ofOccurrences right).positionsOf term doc := by
  apply List.Pairwise.eq_of_mem_iff (positions_ascending (of_occurrences_ordered left) term doc)
    (positions_ascending (of_occurrences_ordered right) term doc)
  intro position
  rw [mem_positions_of_occurrences, mem_positions_of_occurrences, same]

/-- Which occurrences there are decides the postings, and nothing else does. -/
theorem same_postings (same : ∀ occurrence, occurrence ∈ left ↔ occurrence ∈ right) :
    SamePostings (Index.ofOccurrences left) (Index.ofOccurrences right) := by
  have documents : ∀ term doc, doc ∈ (Index.ofOccurrences left).documentsContaining term ↔
      doc ∈ (Index.ofOccurrences right).documentsContaining term := by
    intro term doc
    rw [containing_iff_position (of_occurrences_ordered left),
      containing_iff_position (of_occurrences_ordered right), positions_alike same]
  refine ⟨fun term => ?_, documents, positions_alike same⟩
  rw [Bool.eq_iff_iff, contains_iff_stored, contains_iff_stored]
  simp only [← mem_documents_containing, documents]

private theorem documents_alike {documents others : List (DocId × Text)}
    (same : ∀ document, document ∈ documents ↔ document ∈ others) :
    SamePostings (Index.ofDocuments documents) (Index.ofDocuments others) := by
  apply same_postings
  intro occurrence
  simp only [List.mem_flatMap, same]

/-! ## Files -/

/-- The line of a term: the term, and its documents in order, each with its positions. -/
def LineOf (index : Index) (term line : Text) : Prop :=
  ∃ docs : List DocId, docs.Pairwise (· < ·) ∧
    (∀ doc, doc ∈ docs ↔ doc ∈ index.documentsContaining term) ∧
    line = term ++ '\t' :: Text.join "; ".toList (docs.map fun doc =>
      doc ++ ": ".toList ++ Text.join [','] ((index.positionsOf term doc).map Integer.decimal)) ++
      ['\n']

/-- A text lists an index in lines: one for each term, and the terms in order. -/
structure Lists (index : Index) (t : Text) (terms lines : List Text) : Prop where
  ascending : terms.Pairwise (· < ·)
  complete : ∀ term, term ∈ terms ↔ index.contains term = true
  lined : List.Forall₂ (LineOf index) terms lines
  whole : t = lines.flatten
  /-- Where no name holds a line feed, the lines are those of the text. -/
  apart : (∀ term ∈ terms, '\n' ∉ term) → (∀ doc ∈ index.documents, '\n' ∉ doc) →
    Text.linesKeepingEnds t = lines

private theorem line_of_term (index : Index) (term : Text) :
    LineOf index term (Index.line term (index.postingsOf term) ++ ['\n']) := by
  refine ⟨Text.sorted (index.postingsOf term).keys, sorted_strictly (index.postingsOf term).distinct,
    fun doc => mem_sorted, ?_⟩
  unfold Index.line Entry.write Index.positionsOf
  rw [List.append_assoc]

private theorem entry_clear {positions : List Int} (clear : '\n' ∉ doc) :
    '\n' ∉ Entry.write doc positions := by
  intro member
  simp only [Entry.write, List.mem_append] at member
  rcases member with (inName | inPunctuation) | inPositions
  · exact clear inName
  · exact absurd inPunctuation (by decide)
  · rcases TextCuts.mem_join inPositions with comma | ⟨piece, listed, inPiece⟩
    · exact absurd comma (by decide)
    · obtain ⟨position, _, rfl⟩ := List.mem_map.mp listed
      exact absurd (DecimalReading.decimal_plain position _ inPiece) (by decide)

/-- A line feed in a line comes from a name. -/
private theorem line_clear (termClear : '\n' ∉ term)
    (docsClear : ∀ doc ∈ index.documentsContaining term, '\n' ∉ doc) :
    '\n' ∉ Index.line term (index.postingsOf term) := by
  intro member
  simp only [Index.line, List.mem_append, List.mem_cons] at member
  rcases member with inTerm | tab | inEntries
  · exact termClear inTerm
  · exact absurd tab (by decide)
  · rcases TextCuts.mem_join inEntries with punctuation | ⟨entry, listed, inEntry⟩
    · exact absurd punctuation (by decide)
    · obtain ⟨doc, inDocs, rfl⟩ := List.mem_map.mp listed
      exact entry_clear (docsClear doc (mem_sorted.mp inDocs)) inEntry

/-- An index is written in as many lines as it has terms. -/
theorem lists_write (index : Index) : Lists index index.write index.sortedTerms index.lines where
  ascending := sorted_strictly index.postings.distinct
  complete term := mem_sorted.trans Assoc.contains_iff_mem_keys.symm
  lined := by
    rw [Index.lines, List.forall₂_map_right_iff, List.forall₂_same]
    exact fun term _ => line_of_term index term
  whole := rfl
  apart termsClear docsClear := by
    have written : index.lines = (index.sortedTerms.map fun term =>
        Index.line term (index.postingsOf term)).map (· ++ ['\n']) := by
      rw [List.map_map]
      rfl
    rw [Index.write, written]
    apply LineCuts.lines_of_ended
    intro line listed
    obtain ⟨term, member, rfl⟩ := List.mem_map.mp listed
    apply line_clear (termsClear term member)
    intro doc inTerm
    exact docsClear doc (documents_of_term inTerm)

theorem lines_length (index : Index) : index.lines.length = index.size := by
  simp [Index.lines, Index.sortedTerms, Text.sorted, Index.terms, Assoc.keys, Index.size, Assoc.size]

/-! ## Builds -/

private theorem builds_alike (tree : FileTree) {paths others : List Path}
    (same : ∀ path, path ∈ paths ↔ path ∈ others) :
    SamePostings (Build.ofFiles tree paths).index (Build.ofFiles tree others).index := by
  apply documents_alike
  intro document
  simp only [FileBuilding.documents_of_files, List.mem_filterMap, same]

/-- Builds of the same readable files succeed alike, and their indexes have the same postings; they are
saved alike, and any two files to which they are saved hold the same octets. -/
def BuiltAlike (tree : FileTree) (paths others : List Path) : Prop :=
  ∀ workers team : Int, 1 ≤ workers → 1 ≤ team →
    ∃ build rebuilt, (Build.attempt tree workers paths).2 = .ok build ∧
      (Build.attempt tree team others).2 = .ok rebuilt ∧
      build.errors = [] ∧ rebuilt.errors = [] ∧ SamePostings build.index rebuilt.index ∧
      (∀ before place, build.index.save before place = rebuilt.index.save before place) ∧
      ∀ before place written later elsewhere rewritten,
        build.index.save before place = .ok written →
        rebuilt.index.save later elsewhere = .ok rewritten →
        ∃ octets, written.read place = .ok octets ∧ rewritten.read elsewhere = .ok octets

private theorem built_alike {tree : FileTree} {paths others : List Path}
    (same : ∀ path, path ∈ paths ↔ path ∈ others)
    (readable : ∀ path ∈ paths, ∃ octets, tree.read path = .ok octets) :
    BuiltAlike tree paths others := by
  intro workers team staffed alsoStaffed
  obtain ⟨built, clean⟩ := FileBuilding.attempt_readable staffed readable
  have alsoReadable : ∀ path ∈ others, ∃ octets, tree.read path = .ok octets :=
    fun path member => readable path ((same path).mpr member)
  obtain ⟨rebuilt, alsoClean⟩ := FileBuilding.attempt_readable alsoStaffed alsoReadable
  have alike := builds_alike tree same
  have octets : (Build.ofFiles tree paths).index.octets = (Build.ofFiles tree others).index.octets :=
    congrArg Utf8.encode alike.write
  refine ⟨_, _, built, rebuilt, clean, alsoClean, alike, ?_, ?_⟩
  · intro before place
    rw [Index.save, Index.save, octets]
  · intro before place written later elsewhere rewritten saved resaved
    refine ⟨_, FileWriting.read_write_below saved, ?_⟩
    rw [octets]
    exact FileWriting.read_write_below resaved

/-- Indexes of the same occurrences have the same postings and are written alike, whatever the order and
the number of the occurrences. An index is written in lines of which there is one for each term, in
order. And so builds of the same readable files, in any order and repeated at will, are saved as the same
file. -/
theorem file_ignores_order :
    (∀ left right : List Occurrence, (∀ occurrence, occurrence ∈ left ↔ occurrence ∈ right) →
      SamePostings (Index.ofOccurrences left) (Index.ofOccurrences right) ∧
        (Index.ofOccurrences left).write = (Index.ofOccurrences right).write) ∧
    (∀ index : Index, ∃ terms lines, Lists index index.write terms lines ∧
      index.size = lines.length) ∧
    ∀ (tree : FileTree) (paths others : List Path), (∀ path, path ∈ paths ↔ path ∈ others) →
      (∀ path ∈ paths, ∃ octets, tree.read path = .ok octets) → BuiltAlike tree paths others := by
  refine ⟨fun left right same => ?_, fun index => ?_, fun _ _ _ => built_alike⟩
  · exact ⟨same_postings same, (same_postings same).write⟩
  · exact ⟨_, _, lists_write index, (lines_length index).symm⟩

/-- Occurrences of one term, one of them at a position that no document has. -/
def scattered : List Occurrence := [⟨['x'], ['a'], 3⟩, ⟨['x'], ['b'], 0⟩, ⟨['x'], ['a'], -1⟩]

/-- A tree of two files, of which one holds octets that are no text. -/
def twoFiles : FileTree :=
  (FileTree.empty.set [['a']] (.file [120, 32, 89])).set [['b']] (.file [255, 32, 120, 13, 10])

def twoPaths : List Path := [.ofText ['a'], .ofText ['b']]

/-- Occurrences that come backwards and then once more are written like the ones given; and so are
files. -/
theorem repeated_sources_saved_alike :
    (∀ occurrence, occurrence ∈ scattered ↔ occurrence ∈ scattered.reverse ++ scattered) ∧
    (Index.ofOccurrences scattered).write =
      (Index.ofOccurrences (scattered.reverse ++ scattered)).write ∧
    (∀ path, path ∈ twoPaths ↔ path ∈ twoPaths.reverse ++ twoPaths) ∧
    (∀ path ∈ twoPaths, ∃ octets, twoFiles.read path = .ok octets) ∧
    ∃ build rebuilt written rewritten octets,
      (Build.attempt twoFiles 1 twoPaths).2 = .ok build ∧
      (Build.attempt twoFiles 4 (twoPaths.reverse ++ twoPaths)).2 = .ok rebuilt ∧
      build.index.save twoFiles (.ofText ['i']) = .ok written ∧
      rebuilt.index.save .empty (.ofText ['j']) = .ok rewritten ∧
      written.read (.ofText ['i']) = .ok octets ∧ rewritten.read (.ofText ['j']) = .ok octets := by
  obtain ⟨postings, _, builds⟩ := file_ignores_order
  have same : ∀ occurrence, occurrence ∈ scattered ↔
      occurrence ∈ scattered.reverse ++ scattered := by simp
  have samePaths : ∀ path, path ∈ twoPaths ↔ path ∈ twoPaths.reverse ++ twoPaths := by simp
  have readable : ∀ path ∈ twoPaths, ∃ octets, twoFiles.read path = .ok octets := by
    intro path member
    simp only [twoPaths, List.mem_cons, List.not_mem_nil, or_false] at member
    rcases member with rfl | rfl
    · exact ⟨_, rfl⟩
    · exact ⟨_, rfl⟩
  obtain ⟨build, rebuilt, built, again, _, _, _, _, saves⟩ :=
    builds twoFiles _ _ samePaths readable 1 4 (by decide) (by decide)
  have first : build = Build.ofFiles twoFiles twoPaths := (Except.ok.inj built).symm
  have second : rebuilt = Build.ofFiles twoFiles (twoPaths.reverse ++ twoPaths) :=
    (Except.ok.inj again).symm
  obtain ⟨written, saved⟩ : ∃ written,
      build.index.save twoFiles (.ofText ['i']) = .ok written := by
    subst first
    exact FileWriting.result_of_ok (by decide +kernel)
  obtain ⟨rewritten, resaved⟩ : ∃ rewritten,
      rebuilt.index.save .empty (.ofText ['j']) = .ok rewritten := by
    subst second
    exact FileWriting.result_of_ok (by decide +kernel)
  obtain ⟨octets, read, reread⟩ := saves _ _ _ _ _ _ saved resaved
  exact ⟨same, (postings _ _ same).2, samePaths, readable, build, rebuilt, written, rewritten, octets,
    built, again, saved, resaved, read, reread⟩

end Concordance.OccurrenceOrder
