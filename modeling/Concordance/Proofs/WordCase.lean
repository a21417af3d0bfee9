import Concordance.Proofs.DirectScan
import Concordance.Proofs.SmallLetters
import Concordance.Proofs.TreeShape

/-!
Small letters word by word. The small form of a letter may depend on the rest of its word, but never on
what stands beyond a blank: a blank has no case, the case of a word does not look past it, and small
letters neither make nor lose one. So a text may be cut into words before or after it is put into small
letters, and what a document is indexed under is what a query of the same text asks for.
-/
namespace Concordance.WordCase
open Text TextCuts SmallLetters PostingContent

variable {c d : Char} {t word leaf before after : Text}

/-! ## Blanks have no case -/

private theorem blanks_unlisted :
    blankRanges.all (fun range => (capitalRuns ++ smallRuns).all (apart range.1 range.2 false)) =
      true := by
  decide +kernel

private theorem blanks_not_passed :
    blankRanges.all (fun range => caseIgnorableRanges.all fun other =>
      Nat.blt range.2 other.1 || Nat.blt other.2 range.1) = true := by
  decide +kernel

private theorem small_forms_not_blank :
    capitalRuns.all (fun run => blankRanges.all fun range =>
      Nat.blt range.2 (run.first + run.shift).toNat ||
        Nat.blt (run.last + run.shift).toNat range.1) = true := by
  decide +kernel

private theorem in_ranges_iff {ranges : List (Nat × Nat)} :
    inRanges ranges c = true ↔ ∃ range ∈ ranges, range.1 ≤ c.toNat ∧ c.toNat ≤ range.2 := by
  simp [inRanges, List.any_eq_true]

theorem blank_not_cased (blank : isBlank c = true) : isCased c = false := by
  obtain ⟨range, listed, above, below⟩ := in_ranges_iff.mp blank
  have clear := List.all_eq_true.mp blanks_unlisted range listed
  rw [isCased, isCapital, isSmall, ← List.any_append, List.any_eq_false]
  intro run member holds
  have beyond := List.all_eq_true.mp clear run member
  simp only [apart, Bool.or_eq_true, Nat.blt_eq, Bool.false_and, Bool.false_eq_true,
    or_false] at beyond
  simp only [Run.holds, Bool.and_eq_true, decide_eq_true_eq] at holds
  omega

theorem blank_not_passed (blank : isBlank c = true) : isCaseIgnorable c = false := by
  obtain ⟨range, listed, above, below⟩ := in_ranges_iff.mp blank
  have clear := List.all_eq_true.mp blanks_not_passed range listed
  rw [← Bool.not_eq_true]
  intro passed
  obtain ⟨other, member, low, high⟩ := in_ranges_iff.mp passed
  have beyond := List.all_eq_true.mp clear other member
  simp only [Bool.or_eq_true, Nat.blt_eq] at beyond
  omega

theorem blank_settled (blank : isBlank c = true) : Settled c := by
  apply settled_of_not_capital
  have caseless := blank_not_cased blank
  rw [isCased, Bool.or_eq_false_iff] at caseless
  exact caseless.1

/-- The small form of a character that is not blank is not blank. -/
theorem small_form_ink (ink : isBlank c = false) (member : d ∈ lowerChar c) : isBlank d = false := by
  unfold lowerChar at member
  split at member
  · simp only [List.mem_cons, List.not_mem_nil, or_false] at member
    rcases member with rfl | rfl <;> decide
  · split at member
    · rename_i run found
      rw [List.mem_singleton] at member
      subst member
      have listed := List.find?_some found
      simp only [Run.holds, Bool.and_eq_true, decide_eq_true_eq] at listed
      have clear := List.all_eq_true.mp small_forms_not_blank run (List.mem_of_find?_eq_some found)
      rw [← Bool.not_eq_true]
      intro blank
      rcases toNat_ofNat (c.toNat + run.shift).toNat with whole | null
      · obtain ⟨range, member, above, below⟩ := in_ranges_iff.mp blank
        rw [whole] at above below
        have beyond := List.all_eq_true.mp clear range member
        simp only [Bool.or_eq_true, Nat.blt_eq] at beyond
        omega
      · rw [Char.toNat_inj.mp (null.trans (by rfl : (0 : Nat) = '\x00'.toNat))] at blank
        exact absurd blank (by decide)
    · rw [List.mem_singleton.mp member]
      exact ink

/-! ## Small letters between blanks -/

/-- What lies beyond a blank does not count for the case of a word. -/
theorem starts_cased_append (seen : Text) {beyond : Text}
    (stop : ∀ c ∈ beyond.head?, isBlank c = true) :
    startsCased (seen ++ beyond) = startsCased seen := by
  induction seen with
  | nil =>
    cases beyond with
    | nil => rfl
    | cons c rest =>
      have blank := stop c rfl
      simp [startsCased, blank_not_passed blank, blank_not_cased blank]
  | cons c rest ih =>
    cases passed : isCaseIgnorable c with
    | true => simpa [startsCased, passed] using ih
    | false => simp [startsCased, passed]

/-- A text between blanks is put into small letters as if it stood alone. -/
private theorem lower_between (seen t before after : Text)
    (stopBefore : ∀ c ∈ before.head?, isBlank c = true)
    (stopAfter : ∀ c ∈ after.head?, isBlank c = true) :
    lowerAfter (seen ++ before) (t ++ after) =
      lowerAfter seen t ++ lowerAfter (t.reverse ++ (seen ++ before)) after := by
  induction t generalizing seen with
  | nil => rfl
  | cons c rest ih =>
    have later := ih (c :: seen)
    rw [List.cons_append] at later
    simp only [List.cons_append, lowerAfter, starts_cased_append _ stopBefore,
      starts_cased_append _ stopAfter, later, List.append_assoc, List.reverse_cons,
      List.nil_append]

/-- A blank stays as it is, and the texts before and after it do not see each other. -/
theorem lower_around_blank (blank : isBlank c = true) (before after : Text) :
    lower (before ++ c :: after) = lower before ++ c :: lower after := by
  have first := lower_between [] before [] (c :: after) (by simp) (by simpa using blank)
  have second := lower_between [] after (c :: before.reverse) [] (by simpa using blank) (by simp)
  obtain ⟨noSigma, same⟩ := blank_settled blank
  simp only [List.nil_append, List.append_nil, lowerAfter] at first second
  rw [lower, first, if_neg noSigma, same, second]
  rfl

private theorem lower_after_ink (ink : ∀ c ∈ t, isBlank c = false) :
    ∀ d ∈ lowerAfter before t, isBlank d = false := by
  induction t generalizing before with
  | nil =>
    intro d member
    cases member
  | cons c rest ih =>
    obtain ⟨here, later⟩ := List.forall_mem_cons.mp ink
    intro d member
    rw [lowerAfter, List.mem_append] at member
    rcases member with first | others
    · split at first
      · rw [List.mem_singleton.mp first]
        split <;> decide
      · exact small_form_ink here first
    · exact ih later d others

private theorem lower_nonempty (nonempty : t ≠ []) : lower t ≠ [] := by
  obtain ⟨c, rest, rfl⟩ := List.exists_cons_of_ne_nil nonempty
  have form : lowerChar c ≠ [] := by
    unfold lowerChar
    split
    · exact List.cons_ne_nil _ _
    · split <;> exact List.cons_ne_nil _ _
  rw [lower, lowerAfter]
  intro none
  have first := (List.append_eq_nil_iff.mp none).1
  split at first
  · cases first
  · exact form first

/-- A word in small letters is a word. -/
theorem lower_is_word (proper : IsWord word) : IsWord (lower word) :=
  ⟨lower_nonempty proper.nonempty, lower_after_ink proper.ink⟩

private theorem words_lower_ink (ink : ∀ c ∈ t, isBlank c = false) :
    words (lower t) = (words t).map lower := by
  by_cases none : t = []
  · subst none
    simp [lower, lowerAfter]
  · have proper : IsWord t := ⟨none, ink⟩
    have whole := words_word proper [] (by simp)
    have small := words_word (lower_is_word proper) [] (by simp)
    rw [List.append_nil, words_nil] at whole small
    rw [whole, small, List.map_singleton]

/-- The words of a text in small letters are its words in small letters, each by itself. -/
theorem words_lower (t : Text) : words (lower t) = (words t).map lower := by
  -- The induction goes through the text, with the word that has begun before it.
  suffices general : ∀ begun : Text, (∀ c ∈ begun, isBlank c = false) →
      words (lower (begun ++ t)) = (words (begun ++ t)).map lower from
    general [] (by simp)
  induction t with
  | nil =>
    intro begun ink
    rw [List.append_nil]
    exact words_lower_ink ink
  | cons c rest ih =>
    intro begun ink
    cases blank : isBlank c with
    | true =>
      have later : words (lower rest) = (words rest).map lower := ih [] (by simp)
      rw [lower_around_blank blank, words_around_blank blank, words_around_blank blank,
        words_lower_ink ink, later, List.map_append]
    | false =>
      have longer : ∀ d ∈ begun ++ [c], isBlank d = false := by
        intro d member
        rcases List.mem_append.mp member with seen | here
        · exact ink d seen
        · exact List.mem_singleton.mp here ▸ blank
      simpa using ih (begun ++ [c]) longer

/-! ## Tokens -/

private theorem words_at {rest : Text} (atWord : t.dropWhile isBlank = c :: rest) :
    words t = (c :: rest.takeWhile isInk) :: words (rest.dropWhile isInk) := by
  rw [words]
  split
  · rename_i none
    rw [none] at atWord
    cases atWord
  · rename_i found
    rw [found] at atWord
    cases atWord
    rfl

/-- The texts of the tokens are the words of the text, before small letters come into it. -/
theorem scan_texts (position offset : Int) (t : Text) :
    (Analysis.scan position offset t).map Token.text = words t := by
  fun_induction Analysis.scan position offset t with
  | case1 position offset t none =>
    rw [words, none]
    rfl
  | case2 position offset t gap c rest atWord word start stop ih =>
    rw [List.map_cons, ih, words_at atWord]

/-- A text without capitals is left alone, and that is what small letters would do to it. -/
theorem lowered_text (token : Token) : token.lowered.text = lower token.text := by
  unfold Token.lowered
  split
  · rename_i small
    simp only [isLower, Bool.and_eq_true, Bool.not_eq_true', List.any_eq_false] at small
    have settled : ∀ c ∈ token.text, Settled c := fun c member =>
      settled_of_not_capital (by simpa using small.1 c member)
    exact (lowerAfter_of_settled settled).symm
  · rfl

theorem analyze_words (t : Text) : Analysis.analyze t = (words t).map lower := by
  rw [← scan_texts 0 0 t, Analysis.analyze, Analysis.tokens, Analysis.tokenizeLowered,
    List.map_map, List.map_map]
  exact List.map_congr_left fun token _ => lowered_text token

theorem analyze_lower (t : Text) : Analysis.analyze (lower t) = Analysis.analyze t := by
  rw [analyze_words, analyze_words, ← words_lower, ← words_lower, lower_lower]

/-! ## Queries and documents -/

/-- A phrase in the tree of a text is a part of the text. -/
theorem leaf_is_part (within : WordParser.Within (.phrase leaf) (Query.parse t)) : leaf <:+: t := by
  fun_induction Query.parse t with
  | case1 t none =>
    cases within
    exact trim_is_part t
  | case2 t operator left right found leftIH rightIH =>
    have whole := cutAt?_append (TreeShape.split_cut found).2
    cases within with
    | left within =>
      have inside : left <:+: t := ⟨[], operator.delimited ++ right, by simpa using whole⟩
      exact (leftIH within).trans ((trim_is_part left).trans inside)
    | right within =>
      have inside : right <:+: t := ⟨left ++ operator.delimited, [], by simpa using whole⟩
      exact (rightIH within).trans ((trim_is_part right).trans inside)

/-- The phrases of a query are in small letters already, so they are looked up as documents are indexed. -/
theorem leaf_words (within : WordParser.Within (.phrase leaf) (Query.parse (lower t))) :
    words leaf = Analysis.analyze leaf := by
  have settled : ∀ c ∈ leaf, Settled c := fun c member =>
    settled_lowerAfter ((leaf_is_part within).subset member)
  rw [analyze_words, ← words_lower, lower, lowerAfter_of_settled settled]

private theorem leaf_alone (only : Query.parse t = .phrase leaf) : leaf = trim t := by
  unfold Query.parse at only
  split at only
  · cases only
    rfl
  · cases only

private theorem contains_counts {ts : List Text} {table : Assoc Text Nat} :
    (ts.foldl (fun table word => table.update word fun count => count.getD 0 + 1)
        table).contains word = true ↔ table.contains word = true ∨ word ∈ ts := by
  induction ts generalizing table with
  | nil => simp
  | cons first rest ih =>
    rw [List.foldl_cons, ih, Assoc.contains_update, List.mem_cons, or_comm (a := word = first),
      or_assoc]

/-- The vector of a query has an entry for each of its words, under the words of a document. -/
theorem mem_query_vector (engine : Engine) :
    word ∈ (engine.queryVector t).keys ↔ word ∈ Analysis.analyze t := by
  rw [Engine.queryVector, WeightVector.ofWords, Assoc.keys_mapValues, ← Assoc.contains_iff_mem_keys,
    WeightVector.counts, contains_counts, analyze_lower]
  exact or_iff_right Bool.false_ne_true

private theorem mem_document_terms {documents : List (DocId × Text)} {doc : DocId} {term : Text}
    (distinct : (documents.map Prod.fst).Nodup) (given : (doc, t) ∈ documents) :
    doc ∈ (Index.ofDocuments documents).documentsContaining term ↔ term ∈ Analysis.analyze t := by
  have spells := DirectScan.documents_spelled distinct given
  have ordered : AllStored Ordered (Index.ofDocuments documents).postings :=
    of_occurrences_ordered _
  rw [containing_iff_position ordered, List.mem_iff_getElem?]
  constructor
  · rintro ⟨position, member⟩
    obtain ⟨k, _, found⟩ := (spells term position).mp member
    exact ⟨k, found⟩
  · rintro ⟨k, found⟩
    exact ⟨k, (spells term k).mpr ⟨k, rfl, found⟩⟩

/-- A text has the same words whether it is cut into tokens and these are put into small letters, or it
is put into small letters and cut, or it was in small letters from the start. These are the words of a
query's phrases, the entries of its vector, and the terms of a document of the same text. -/
theorem words_of_both_sides (t : Text) :
    (Analysis.analyze t = words (lower t) ∧ Analysis.analyze t = (words t).map lower ∧
      Analysis.analyze t = Analysis.analyze (lower t)) ∧
    (∀ leaf, Query.parse (lower t) = .phrase leaf → words leaf = Analysis.analyze t) ∧
    (∀ leaf, WordParser.Within (.phrase leaf) (Query.parse (lower t)) →
      words leaf = Analysis.analyze leaf) ∧
    (∀ (engine : Engine) word, word ∈ (engine.queryVector t).keys ↔ word ∈ Analysis.analyze t) ∧
    ∀ (documents : List (DocId × Text)) (doc : DocId), (documents.map Prod.fst).Nodup →
      (doc, t) ∈ documents → ∀ term,
        doc ∈ (Index.ofDocuments documents).documentsContaining term ↔
          term ∈ Analysis.analyze t := by
  refine ⟨⟨?_, analyze_words t, (analyze_lower t).symm⟩, ?_, fun _ => leaf_words,
    fun engine _ => mem_query_vector engine, fun _ _ distinct given _ =>
      mem_document_terms distinct given⟩
  · rw [analyze_words, words_lower]
  · intro leaf only
    rw [leaf_alone only, words_trim, words_lower, analyze_words]

/-- A capital sigma before a no-break space takes its final form whatever letter follows, and a dotted
capital I becomes two characters, in the query as in the document. -/
theorem final_sigma_before_blank :
    Query.parse (lower "ΟΔΟΣ\u00a0ΣΑ İ".toList) = .phrase "οδος\u00a0σα i\u0307".toList ∧
      ([("a".toList, "ΟΔΟΣ\u00a0ΣΑ İ".toList)].map Prod.fst).Nodup ∧
      words "οδος\u00a0σα i\u0307".toList = Analysis.analyze "ΟΔΟΣ\u00a0ΣΑ İ".toList ∧
      "a".toList ∈ (Index.ofDocuments [("a".toList,
        "ΟΔΟΣ\u00a0ΣΑ İ".toList)]).documentsContaining "οδος".toList := by
  have leaf : Query.parse (lower "ΟΔΟΣ\u00a0ΣΑ İ".toList) =
      .phrase "οδος\u00a0σα i\u0307".toList := by decide +kernel
  have distinct : ([("a".toList, "ΟΔΟΣ\u00a0ΣΑ İ".toList)].map Prod.fst).Nodup := by decide
  obtain ⟨_, alone, within, _, document⟩ := words_of_both_sides "ΟΔΟΣ\u00a0ΣΑ İ".toList
  exact ⟨leaf, distinct, alone _ leaf,
    (document _ _ distinct (List.mem_singleton.mpr rfl) _).mpr (by decide +kernel)⟩

end Concordance.WordCase
