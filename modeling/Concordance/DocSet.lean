import Concordance.Text.Basic

/-!
Sets of documents. A set keeps its members in the order in which they were found; only membership
and the sorted list of members are ever shown.
-/
namespace Concordance

/-- The name under which a document is indexed. -/
abbrev DocId := Text

/-- Documents without repetition. -/
structure DocSet where
  members : List DocId
  distinct : members.Nodup

namespace DocSet

instance : Membership DocId DocSet := ⟨fun set doc => doc ∈ set.members⟩

instance (doc : DocId) (set : DocSet) : Decidable (doc ∈ set) :=
  inferInstanceAs (Decidable (doc ∈ set.members))

def empty : DocSet := ⟨[], .nil⟩

instance : EmptyCollection DocSet := ⟨empty⟩

def size (set : DocSet) : Nat := set.members.length

/-- A set with one more document. -/
def insert (set : DocSet) (doc : DocId) : DocSet :=
  if absent : doc ∈ set.members then set
  else
    ⟨set.members ++ [doc], by
      rw [List.nodup_append]
      refine ⟨set.distinct, by simp, ?_⟩
      intro a member b same
      simp only [List.mem_singleton] at same
      rintro rfl
      exact absent (same ▸ member)⟩

/-- The documents of a list, in the order of their first occurrence. -/
def ofList (docs : List DocId) : DocSet := docs.foldl insert empty

/-- The documents that satisfy a test. -/
def filter (p : DocId → Bool) (set : DocSet) : DocSet where
  members := set.members.filter p
  distinct := set.distinct.sublist List.filter_sublist

def inter (left right : DocSet) : DocSet := left.filter (· ∈ right)

def union (left right : DocSet) : DocSet := right.members.foldl insert left

/-- The documents of the first set that are not in the second. -/
def diff (left right : DocSet) : DocSet := left.filter (· ∉ right)

def sorted (set : DocSet) : List DocId := Text.sorted set.members

@[simp] theorem mem_insert {set : DocSet} {doc other : DocId} :
    other ∈ set.insert doc ↔ other ∈ set ∨ other = doc := by
  simp only [insert]
  split
  next present =>
    refine ⟨.inl, fun member => member.elim id ?_⟩
    rintro rfl
    exact present
  next =>
    change other ∈ set.members ++ [doc] ↔ other ∈ set.members ∨ other = doc
    simp

theorem mem_foldl_insert {docs : List DocId} {set : DocSet} {other : DocId} :
    other ∈ docs.foldl insert set ↔ other ∈ set ∨ other ∈ docs := by
  induction docs generalizing set with
  | nil => simp
  | cons doc rest ih =>
    rw [List.foldl_cons, ih, mem_insert, List.mem_cons, or_assoc]

@[simp] theorem not_mem_empty {doc : DocId} : ¬ doc ∈ empty := List.not_mem_nil

@[simp] theorem mem_ofList {docs : List DocId} {doc : DocId} : doc ∈ ofList docs ↔ doc ∈ docs := by
  rw [ofList, mem_foldl_insert]
  simp

@[simp] theorem mem_filter {p : DocId → Bool} {set : DocSet} {doc : DocId} :
    doc ∈ set.filter p ↔ doc ∈ set ∧ p doc = true := List.mem_filter

@[simp] theorem mem_inter {left right : DocSet} {doc : DocId} :
    doc ∈ left.inter right ↔ doc ∈ left ∧ doc ∈ right := by simp [inter]

@[simp] theorem mem_union {left right : DocSet} {doc : DocId} :
    doc ∈ left.union right ↔ doc ∈ left ∨ doc ∈ right := mem_foldl_insert

@[simp] theorem mem_diff {left right : DocSet} {doc : DocId} :
    doc ∈ left.diff right ↔ doc ∈ left ∧ ¬ doc ∈ right := by simp [diff]

end DocSet
end Concordance
