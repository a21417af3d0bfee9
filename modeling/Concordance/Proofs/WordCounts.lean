import Mathlib.Data.List.Sort
import Concordance.Proofs.DirectScan
import Concordance.Ranking.Vector

/-!
Counts of words. A table of counts lists the distinct words of a text in the order in which they come; an
index counts how often a text has a word by the positions that it stores, and how many texts there are by
their names.
-/
namespace Concordance.WordCounts

open PostingContent DirectScan

/-! ## Tables of counts -/

section
variable {table : Assoc Text Nat} {words : List Text}

/-- Counts one more occurrence of a word. -/
def increment (table : Assoc Text Nat) (word : Text) : Assoc Text Nat :=
  table.update word fun count => count.getD 0 + 1

private theorem keys_increment :
    (words.foldl increment table).keys =
      table.keys ++ (words.filter (· ∉ table.keys)).eraseDups := by
  induction words generalizing table with
  | nil => simp
  | cons word rest ih =>
    rw [List.foldl_cons, ih, increment, Assoc.keys_update]
    by_cases known : word ∈ table.keys
    · simp [known]
    · -- The new word is the next key, and its later occurrences are dropped.
      have later : rest.filter (· ∉ table.keys ++ [word]) =
          (rest.filter (· ∉ table.keys)).filter fun other => !other == word := by
        rw [List.filter_filter]
        apply List.filter_congr
        intro other _
        rw [Bool.eq_iff_iff]
        simp [not_or, and_comm]
      simp only [known, if_false, later]
      simp [known, List.eraseDups_cons]

private theorem get_increment (word : Text) :
    (words.foldl increment table).get? word =
      if word ∈ words then some ((table.get? word).getD 0 + words.count word)
      else table.get? word := by
  induction words generalizing table with
  | nil => simp
  | cons first rest ih =>
    rw [List.foldl_cons, ih, increment, Assoc.get?_update]
    by_cases same : word = first
    · subst same
      by_cases later : word ∈ rest
      · simp [later]
        omega
      · simp [later, List.count_eq_zero_of_not_mem later]
    · simp [same, Ne.symm same]

end

/-- The keys of a table of counts are the distinct words in the order of their first occurrence. -/
theorem keys_counts (words : List Text) : (WeightVector.counts words).keys = words.eraseDups := by
  change (words.foldl increment ∅).keys = _
  have none : (∅ : Assoc Text Nat).keys = [] := rfl
  rw [keys_increment, none]
  simp

theorem get_counts (words : List Text) (word : Text) :
    (WeightVector.counts words).get? word =
      if word ∈ words then some (words.count word) else none := by
  change (words.foldl increment ∅).get? word = _
  have none : (∅ : Assoc Text Nat).get? word = none := rfl
  rw [get_increment, none]
  simp

/-! ## Counts in an index -/

variable {documents : List (DocId × Text)} {doc : DocId} {term t : Text}

/-- A text that an index spells has a word as often as the index stores a position of it. -/
theorem length_positions {index : Index} {tokens : List Text}
    (ordered : AllStored Ordered index.postings) (spells : Spells index doc tokens) (term : Text) :
    (index.positionsOf term doc).length = tokens.count term := by
  have places : index.positionsOf term doc = (tokens.idxsOf term).map Int.ofNat := by
    apply List.Pairwise.eq_of_mem_iff (positions_ascending ordered term doc)
    · rw [List.pairwise_map]
      exact List.pairwise_idxsOf.imp Int.ofNat_lt.mpr
    · intro position
      rw [spells, List.mem_map]
      refine exists_congr fun k => ?_
      have place : k ∈ tokens.idxsOf term ↔ tokens[k]? = some term := by
        simp [List.getElem?_eq_some_iff]
      exact ⟨fun ⟨same, found⟩ => ⟨place.mpr found, same.symm⟩,
        fun ⟨listed, same⟩ => ⟨same.symm, place.mp listed⟩⟩
  rw [places, List.length_map, List.length_idxsOf]

/-- Of documents with distinct names, as many satisfy a condition as there are names in the set of theirs. -/
theorem size_of_names (distinct : (documents.map Prod.fst).Nodup) {p : DocId × Text → Bool}
    {set : DocSet} (members : ∀ doc, doc ∈ set ↔ ∃ t, (doc, t) ∈ documents ∧ p (doc, t) = true) :
    set.size = documents.countP p := by
  have names : ((documents.filter p).map Prod.fst).Nodup :=
    distinct.sublist (List.filter_sublist.map _)
  have same : set.members.Perm ((documents.filter p).map Prod.fst) := by
    rw [List.perm_ext_iff_of_nodup set.distinct names]
    intro doc
    refine (members doc).trans ?_
    simp [List.mem_map, List.mem_filter]
  rw [DocSet.size, same.length_eq, List.length_map, List.countP_eq_length_filter]

/-- Distinctly named texts with words are counted once each. -/
theorem document_count (distinct : (documents.map Prod.fst).Nodup) :
    (Index.ofDocuments documents).documentCount =
      documents.countP fun (_, t) => Analysis.analyze t ≠ [] := by
  apply size_of_names distinct
  intro doc
  rw [mem_documents_of_documents]
  simp

theorem mem_containing : doc ∈ (Index.ofDocuments documents).documentsContaining term ↔
    ∃ t, (doc, t) ∈ documents ∧ term ∈ Analysis.analyze t := by
  rw [containing_iff_position (documents_ordered documents)]
  simp only [mem_positions_of_documents]
  constructor
  · rintro ⟨_, t, given, k, _, found⟩
    exact ⟨t, given, List.mem_of_getElem? found⟩
  · rintro ⟨t, given, listed⟩
    obtain ⟨k, found⟩ := List.mem_iff_getElem?.mp listed
    exact ⟨k, t, given, k, rfl, found⟩

/-- Distinctly named texts with a word are counted once each. -/
theorem containing_count (distinct : (documents.map Prod.fst).Nodup) (term : Text) :
    ((Index.ofDocuments documents).documentsContaining term).size =
      documents.countP fun (_, t) => (Analysis.analyze t).contains term := by
  apply size_of_names distinct
  intro doc
  rw [mem_containing]
  simp

end Concordance.WordCounts
