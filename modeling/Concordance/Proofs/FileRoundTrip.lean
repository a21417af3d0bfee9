import Concordance.Index.Loading
import Concordance.Proofs.EntryForm
import Concordance.Proofs.FileWriting
import Concordance.Proofs.IndexReading
import Concordance.Proofs.LineCuts
import Concordance.Proofs.SamePostings
import Concordance.Proofs.Utf8Reading

/-!
Which indexes survive being saved and loaded. An index comes back with the same postings exactly if its
terms, names and positions can be told apart again in its lines; and whatever is loaded from a file is
such an index.
-/
namespace Concordance.FileRoundTrip
open TextCuts LineCuts EntryForm IndexReading PostingContent CodePointOrder

-- Powers mean the same whatever else is imported.
attribute [local instance (high)] instPowNat

/-- A term that its line can begin with. -/
structure IsTerm (term : Text) : Prop where
  noTab : '\t' ∉ term
  noFeed : '\n' ∉ term
  noReturn : '\r' ∉ term

/-- A document whose name an entry can begin with. -/
structure IsName (doc : DocId) : Prop where
  nonempty : doc ≠ []
  ink : ∀ c ∈ doc, Text.isBlank c = false
  noSemicolon : ';' ∉ doc

/-- An index whose lines keep its terms, names and positions apart. -/
structure Storable (index : Index) : Prop where
  terms : ∀ term, index.contains term = true → IsTerm term
  names : ∀ doc ∈ index.documents, IsName doc
  positions : ∀ term, ∀ doc ∈ index.documentsContaining term,
    Canonical (index.positionsOf term doc)

/-- What a line can say of a term and a document. -/
structure Fits (term : Text) (doc : DocId) (positions : List Int) : Prop where
  term : IsTerm term
  name : IsName doc
  positions : Canonical positions

variable {index : Index} {term : Text} {doc : DocId} {positions : List Int}

/-- An index is storable exactly if everything that is stored in it fits its lines. -/
theorem storable_iff : Storable index ↔ ∀ term doc positions,
    stored? index.postings term doc = some positions → Fits term doc positions := by
  constructor
  · intro storable term doc positions held
    have present : (stored? index.postings term doc).isSome = true := by rw [held]; rfl
    have canonical := storable.positions term doc (mem_documents_containing.mpr present)
    rw [positions_stored, held] at canonical
    exact ⟨storable.terms term (contains_iff_stored.mpr ⟨doc, present⟩),
      storable.names doc (mem_documents.mpr ⟨term, present⟩), canonical⟩
  · intro fits
    refine ⟨fun term known => ?_, fun doc member => ?_, fun term doc member => ?_⟩
    · obtain ⟨doc, positions, held⟩ := stored_of_known known
      exact (fits term doc positions held).term
    · obtain ⟨term, present⟩ := mem_documents.mp member
      obtain ⟨positions, held⟩ := Option.isSome_iff_exists.mp present
      exact (fits term doc positions held).name
    · obtain ⟨positions, held⟩ := stored_of_listed member
      rw [positions_stored, held]
      exact (fits term doc positions held).positions

/-! ## Lines as they are written -/

private def entryText (entry : Entry) : Text := Entry.write entry.doc entry.positions

/-- Outside its spaces an entry has no blank, and it has no semicolon. -/
private theorem entry_clear (named : IsName doc) (canonical : Canonical positions) :
    ∀ c ∈ Entry.write doc positions, c = ' ' ∨ Text.isBlank c = false ∧ c ≠ ';' := by
  intro c member
  obtain inName | rfl | rfl | rfl | digit := mem_write canonical member
  · refine .inr ⟨named.ink c inName, ?_⟩
    rintro rfl
    exact named.noSemicolon inName
  · exact .inr (by decide)
  · exact .inl rfl
  · exact .inr (by decide)
  · refine .inr ⟨DecimalReading.digit_not_blank digit, ?_⟩
    rintro rfl
    cases digit

private theorem space_or_ink_clear {c : Char} (clear : c = ' ' ∨ Text.isBlank c = false) :
    c ≠ '\t' ∧ Text.isLineEnd c = false := by
  obtain rfl | ink := clear
  · decide
  · have noTab : c ≠ '\t' := by rintro rfl; cases ink
    have noFeed : c ≠ '\n' := by rintro rfl; cases ink
    have noReturn : c ≠ '\r' := by rintro rfl; cases ink
    simp [Text.isLineEnd, noTab, noFeed, noReturn]

/-- An entry that is written on the line of a term can be read again. -/
private structure Legible (term : Text) (entry : Entry) : Prop where
  fits : Fits term entry.doc entry.positions
  readable : Readable entry.positions

variable {entries : List Entry}

private theorem details_clear (legible : ∀ entry ∈ entries, Legible term entry) :
    ∀ c ∈ Text.join "; ".toList (entries.map entryText), c ≠ '\t' ∧ Text.isLineEnd c = false := by
  intro c member
  cases mem_join member with
  | inl between =>
    obtain rfl | rfl : c = ';' ∨ c = ' ' := by simpa using between
    · decide
    · decide
  | inr inside =>
    obtain ⟨piece, listed, inPiece⟩ := inside
    obtain ⟨entry, member, rfl⟩ := List.mem_map.mp listed
    have fits := (legible entry member).fits
    exact space_or_ink_clear ((entry_clear fits.name fits.positions c inPiece).imp_right And.left)

/-- A written line holds no line end. -/
private theorem line_clear (opening : IsTerm term)
    (legible : ∀ entry ∈ entries, Legible term entry) :
    ∀ c ∈ term ++ '\t' :: Text.join "; ".toList (entries.map entryText),
      Text.isLineEnd c = false := by
  intro c member
  obtain inTerm | rfl | inDetails := by simpa using member
  · exact clear_iff.mpr ⟨opening.noFeed, opening.noReturn⟩ c inTerm
  · decide
  · exact (details_clear legible c inDetails).2

private theorem segments_read (margin : Text) (blank : ∀ c ∈ margin, Text.isBlank c = true)
    (legible : ∀ entry ∈ entries, Legible term entry) :
    ((entries.map entryText).map (margin ++ ·)).filterMap (inSegment? term) =
      entries.map (term, ·) := by
  induction entries with
  | nil => rfl
  | cons entry rest ih =>
    obtain ⟨here, later⟩ := List.forall_mem_cons.mp legible
    have word : IsWord entry.doc := ⟨here.fits.name.nonempty, here.fits.name.ink⟩
    have read : inSegment? term (margin ++ entryText entry) = some (term, entry) := by
      rw [inSegment?, entryText, read_write blank word here.fits.positions here.readable]
      rfl
    rw [List.map_cons, List.map_cons, List.filterMap_cons_some read, ih later]
    rfl

/-- The entries that a written line holds are those that it was written with. -/
private theorem entries_of_written (some : entries ≠ [])
    (legible : ∀ entry ∈ entries, Legible term entry) :
    entriesOf ((term ++ '\t' :: Text.join "; ".toList (entries.map entryText)) ++ ['\n']) =
      entries.map (term, ·) := by
  obtain ⟨first, rest, rfl⟩ := List.exists_cons_of_ne_nil some
  obtain ⟨here, later⟩ := List.forall_mem_cons.mp legible
  have opening := here.fits.term
  have details := details_clear legible
  have noTab : '\t' ∉ Text.join "; ".toList ((first :: rest).map entryText) :=
    fun member => (details '\t' member).1 rfl
  have whole : ∀ piece ∈ (first :: rest).map entryText, ';' ∉ piece := by
    intro piece listed semicolon
    obtain ⟨entry, member, rfl⟩ := List.mem_map.mp listed
    have fits := (legible entry member).fits
    obtain same | ⟨_, other⟩ := entry_clear fits.name fits.positions ';' semicolon
    · cases same
    · exact other rfl
  have segments : Text.splitOn ';' (Text.join "; ".toList ((first :: rest).map entryText)) =
      entryText first :: (rest.map entryText).map ([' '] ++ ·) :=
    split_join [' '] (by decide) whole
  have firstRead := segments_read [] (by simp) (List.forall_mem_singleton.mpr here)
  have restRead := segments_read [' '] (by simp [space_is_blank]) later
  unfold entriesOf
  rw [chomp_ended (line_clear opening legible), split_at_first opening.noTab, split_of_free noTab]
  dsimp only
  rw [segments, ← List.singleton_append, List.filterMap_append, restRead]
  exact congrArg (· ++ rest.map (term, ·)) firstRead

/-! ## Indexes as they are written -/

/-- No position of the index is too long to be read. -/
def Bounded (index : Index) : Prop := ∀ term doc, Readable (index.positionsOf term doc)

private def entriesUnder (index : Index) (term : Text) : List Entry :=
  (Text.sorted (index.postingsOf term).keys).map fun doc => ⟨doc, index.positionsOf term doc⟩

private theorem line_form (index : Index) (term : Text) :
    Index.line term (index.postingsOf term) =
      term ++ '\t' :: Text.join "; ".toList ((entriesUnder index term).map entryText) := by
  rw [Index.line, entriesUnder, List.map_map]
  rfl

private theorem mem_entries_under {entry : Entry} :
    entry ∈ entriesUnder index term ↔
      stored? index.postings term entry.doc = some entry.positions := by
  simp only [entriesUnder, List.mem_map, mem_sorted]
  constructor
  · rintro ⟨doc, listed, rfl⟩
    obtain ⟨positions, held⟩ := stored_of_listed listed
    simp [positions_stored, held]
  · intro held
    refine ⟨entry.doc, listed_of_stored held, ?_⟩
    rw [positions_stored, held]
    rfl

private theorem entries_under_nonempty (known : index.contains term = true) :
    entriesUnder index term ≠ [] := by
  obtain ⟨doc, positions, held⟩ := stored_of_known known
  exact List.ne_nil_of_mem (mem_entries_under.mpr held : (⟨doc, positions⟩ : Entry) ∈ _)

private theorem legible_under (storable : Storable index) (bounded : Bounded index) (term : Text) :
    ∀ entry ∈ entriesUnder index term, Legible term entry := by
  intro entry member
  have held := mem_entries_under.mp member
  refine ⟨storable_iff.mp storable term entry.doc entry.positions held, ?_⟩
  have below := bounded term entry.doc
  rwa [positions_stored, held] at below

private theorem mem_sorted_terms : term ∈ index.sortedTerms ↔ index.contains term = true :=
  mem_sorted.trans Assoc.contains_iff_mem_keys.symm

/-- The lines of a storable index hold exactly what the index stores. -/
theorem mem_of_written (storable : Storable index) (bounded : Bounded index) {entry : Entry} :
    (term, entry) ∈ index.lines.flatMap entriesOf ↔
      stored? index.postings term entry.doc = some entry.positions := by
  have onLine : ∀ term, index.contains term = true →
      entriesOf (Index.line term (index.postingsOf term) ++ ['\n']) =
        (entriesUnder index term).map (term, ·) := by
    intro term known
    rw [line_form]
    exact entries_of_written (entries_under_nonempty known) (legible_under storable bounded term)
  simp only [List.mem_flatMap, Index.lines, List.mem_map, mem_sorted_terms]
  constructor
  · rintro ⟨_, ⟨other, known, rfl⟩, member⟩
    rw [onLine other known] at member
    obtain ⟨same, listed, eq⟩ := List.mem_map.mp member
    cases eq
    exact mem_entries_under.mp listed
  · intro held
    have known : index.contains term = true :=
      contains_iff_stored.mpr ⟨entry.doc, by rw [held]; rfl⟩
    refine ⟨_, ⟨term, known, rfl⟩, ?_⟩
    rw [onLine term known]
    exact List.mem_map_of_mem (mem_entries_under.mpr held)

/-- Reading the lines of a storable index gives its postings back. -/
private theorem reread_same (storable : Storable index) (bounded : Bounded index) :
    SamePostings (Index.ofLines index.lines) index := by
  rw [SamePostings.iff_stored]
  intro term doc
  rw [stored_of_lines]
  cases held : stored? index.postings term doc with
  | none =>
    refine Option.eq_none_iff_forall_ne_some.mpr fun positions found => ?_
    have stored := (mem_of_written storable bounded).mp (mem_of_first found)
    rw [held] at stored
    cases stored
  | some positions =>
    refine first_of_mem ((mem_of_written storable bounded).mpr held) fun others listed => ?_
    have stored := (mem_of_written storable bounded).mp listed
    rw [held] at stored
    cases stored
    rfl

private theorem body_clear (storable : Storable index) (bounded : Bounded index)
    (known : index.contains term = true) :
    ∀ c ∈ Index.line term (index.postingsOf term), Text.isLineEnd c = false := by
  rw [line_form]
  exact line_clear (storable.terms term known) (legible_under storable bounded term)

/-- The text of a storable index is cut into the lines it was put together from. -/
private theorem lines_of_write (storable : Storable index) (bounded : Bounded index) :
    Text.linesKeepingEnds (Text.unifyNewlines index.write) = index.lines := by
  let bodies := index.sortedTerms.map fun term => Index.line term (index.postingsOf term)
  have ended : index.lines = bodies.map (· ++ ['\n']) := by
    simp [Index.lines, bodies]
  have clear : ∀ body ∈ bodies, ∀ c ∈ body, Text.isLineEnd c = false := by
    intro body member
    obtain ⟨term, listed, rfl⟩ := List.mem_map.mp member
    exact body_clear storable bounded (mem_sorted_terms.mp listed)
  have noFeed : ∀ body ∈ bodies, '\n' ∉ body := fun body member =>
    (clear_iff.mp (clear body member)).1
  have noReturn : '\r' ∉ index.write := by
    intro member
    rw [Index.write, ended] at member
    obtain ⟨line, listed, inLine⟩ := List.mem_flatten.mp member
    obtain ⟨body, inBodies, rfl⟩ := List.mem_map.mp listed
    cases List.mem_append.mp inLine with
    | inl inBody => exact (clear_iff.mp (clear body inBodies)).2 inBody
    | inr feed => exact absurd feed (by decide)
  rw [unify_of_free noReturn, Index.write, ended, lines_of_ended noFeed]

/-! ## Files -/

/-- The index that a file with this text holds. -/
def indexOf (t : Text) : Index := Index.ofLines (Text.linesKeepingEnds (Text.unifyNewlines t))

/-- A file that holds a text is loaded, whatever the text is. -/
theorem load_text {tree : FileTree} {path : Path} {t : Text}
    (holds : tree.read path = .ok (Utf8.encode t)) :
    Index.load tree path = .ok (indexOf t) := by
  have decoded : (Loading.ofOctets (Utf8.encode t)).result = .ok (indexOf t) := by
    unfold Loading.ofOctets
    rw [Utf8Reading.read_encode]
    rfl
  unfold Index.load Loading.ofFile
  rw [holds]
  exact decoded

/-- A file that an index was saved to is loaded as the index that its text holds. -/
theorem load_saved {tree written : FileTree} {path : Path}
    (saved : index.save tree path = .ok written) :
    Index.load written path = .ok (indexOf index.write) :=
  load_text (FileWriting.read_write_below saved)

/-- A storable index comes back with the same postings. -/
theorem reload_storable {tree written : FileTree} {path : Path} (storable : Storable index)
    (bounded : Bounded index) (saved : index.save tree path = .ok written) :
    ∃ reread, Index.load written path = .ok reread ∧ SamePostings reread index := by
  refine ⟨_, load_saved saved, ?_⟩
  rw [indexOf, lines_of_write storable bounded]
  exact reread_same storable bounded

/-- Whatever is loaded from a text fits its lines, and its positions are short enough to be read
again. -/
private theorem loaded_fits {t : Text}
    (held : stored? (indexOf t).postings term doc = some positions) :
    Fits term doc positions ∧ Readable positions := by
  obtain ⟨line, member, onLine⟩ := line_of_stored held
  obtain ⟨first, details, field, segment, piece, read⟩ := mem_entries_of onLine
  obtain ⟨word, within, canonical, readable⟩ := read_sound read
  have clear := chomped_free member
  have oneLine : '\n' ∉ term ∧ '\r' ∉ term :=
    clear_iff.mp fun c inTerm => clear c (piece_within first c inTerm)
  have whole : ';' ∉ doc := fun semicolon => piece_free piece (within ';' semicolon)
  exact ⟨⟨⟨piece_free first, oneLine.1, oneLine.2⟩, ⟨word.nonempty, word.ink, whole⟩, canonical⟩,
    readable⟩

/-- Whatever is loaded from a text can be saved and loaded again. -/
theorem loaded_storable (t : Text) : Storable (indexOf t) ∧ Bounded (indexOf t) := by
  refine ⟨storable_iff.mpr fun _ _ _ held => (loaded_fits held).1, ?_⟩
  intro term doc position member
  rw [positions_stored] at member
  cases held : stored? (indexOf t).postings term doc with
  | none =>
    rw [held] at member
    cases member
  | some positions =>
    rw [held] at member
    exact (loaded_fits held).2 position member

/-- An index with the postings of a storable one is storable. -/
private theorem storable_of_same {left right : Index} (same : SamePostings left right)
    (storable : Storable left) : Storable right := by
  rw [storable_iff] at storable ⊢
  intro term doc positions held
  rw [← SamePostings.iff_stored.mp same] at held
  exact storable term doc positions held

/-- An index that is saved and loaded again has the same postings exactly if it is storable: no term
holds a tab or a line end, every document is named by a word without semicolons, and positions are
some, strictly ascending and not negative. -/
theorem reloads_exactly_if_storable {tree written : FileTree} {path : Path}
    (bounded : ∀ term doc, ∀ position ∈ index.positionsOf term doc,
      position < 10 ^ Integer.digitLimit)
    (saved : index.save tree path = .ok written) :
    (∃ reread, Index.load written path = .ok reread ∧ SamePostings reread index) ↔
      Storable index := by
  constructor
  · rintro ⟨reread, loaded, same⟩
    rw [load_saved saved] at loaded
    cases loaded
    exact storable_of_same same (loaded_storable index.write).1
  · intro storable
    exact reload_storable storable bounded saved

/-- A term that looks like an entry, in a document whose name is made of colons. -/
def colonText : Text := "; a: 1\t:::: 0,3\n".toList

/-- Semicolons, colons and spaces in a term, and colons in a name, do no harm. -/
theorem colons_survive :
    ∃ written reread, (indexOf colonText).save .empty (.ofText ['i']) = .ok written ∧
      Index.load written (.ofText ['i']) = .ok reread ∧ SamePostings reread (indexOf colonText) ∧
      reread.positionsOf "; a: 1".toList ":::".toList = [0, 3] := by
  obtain ⟨written, saved⟩ : ∃ written,
      (indexOf colonText).save .empty (.ofText ['i']) = .ok written :=
    FileWriting.result_of_ok (by decide +kernel)
  obtain ⟨storable, bounded⟩ := loaded_storable colonText
  obtain ⟨reread, loaded, same⟩ := (reloads_exactly_if_storable bounded saved).mpr storable
  refine ⟨written, reread, saved, loaded, same, ?_⟩
  rw [same.positions]
  decide +kernel

end Concordance.FileRoundTrip
