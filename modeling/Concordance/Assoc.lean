/-!
Tables that keep their keys in the order of first insertion, each key once. Everything is said
through two views: the value of a key (`get?`) and the keys in order (`keys`).
-/
namespace Concordance

/-- Key and value pairs in order of first insertion; no key occurs twice. -/
structure Assoc (κ υ : Type) where
  entries : List (κ × υ)
  distinct : (entries.map Prod.fst).Nodup

namespace Assoc

variable {κ υ ω : Type}

def keys (table : Assoc κ υ) : List κ := table.entries.map Prod.fst

def values (table : Assoc κ υ) : List υ := table.entries.map Prod.snd

def size (table : Assoc κ υ) : Nat := table.entries.length

def empty : Assoc κ υ := ⟨[], .nil⟩

instance : EmptyCollection (Assoc κ υ) := ⟨empty⟩
instance : Inhabited (Assoc κ υ) := ⟨empty⟩

section
variable [DecidableEq κ]

/-- The value that the pairs give a key. -/
def find? (key : κ) : List (κ × υ) → Option υ
  | [] => none
  | (other, value) :: rest => if other = key then some value else find? key rest

/-- The value of a key. -/
def get? (table : Assoc κ υ) (key : κ) : Option υ := find? key table.entries

def contains (table : Assoc κ υ) (key : κ) : Bool := (table.get? key).isSome

/-- Replaces the value of a key where it stands, or puts the key at the end. -/
def updateEntries (key : κ) (f : Option υ → υ) : List (κ × υ) → List (κ × υ)
  | [] => [(key, f none)]
  | (other, value) :: rest =>
    if other = key then (other, f (some value)) :: rest
    else (other, value) :: updateEntries key f rest

theorem keys_updateEntries (key : κ) (f : Option υ → υ) (entries : List (κ × υ)) :
    (updateEntries key f entries).map Prod.fst =
      if key ∈ entries.map Prod.fst then entries.map Prod.fst
      else entries.map Prod.fst ++ [key] := by
  induction entries with
  | nil => simp [updateEntries]
  | cons entry rest ih =>
    obtain ⟨other, value⟩ := entry
    by_cases same : other = key
    · simp [updateEntries, same]
    · simp only [updateEntries, same, if_false, List.map_cons, ih, List.mem_cons,
        Ne.symm same, false_or]
      split <;> simp

/-- The value of a key becomes `f` of what it was; a new key goes to the end. -/
def update (table : Assoc κ υ) (key : κ) (f : Option υ → υ) : Assoc κ υ where
  entries := updateEntries key f table.entries
  distinct := by
    rw [keys_updateEntries]
    split
    · exact table.distinct
    next absent =>
      rw [List.nodup_append]
      refine ⟨table.distinct, by simp, ?_⟩
      intro a member b same
      simp only [List.mem_singleton] at same
      rintro rfl
      exact absent (same ▸ member)

/-- Gives a key a value, whatever it had. -/
def put (table : Assoc κ υ) (key : κ) (value : υ) : Assoc κ υ := table.update key fun _ => value

/-- Gives a key a value unless it has one. -/
def add (table : Assoc κ υ) (key : κ) (value : υ) : Assoc κ υ :=
  table.update key fun old => old.getD value

/-- The table of a list of pairs; the last pair of a key gives its value. -/
def ofList (pairs : List (κ × υ)) : Assoc κ υ :=
  pairs.foldl (fun table (key, value) => table.put key value) empty

end

/-- The pairs whose value satisfies `p`, in their order. -/
def filterValues (table : Assoc κ υ) (p : υ → Bool) : Assoc κ υ where
  entries := table.entries.filter fun (_, value) => p value
  distinct := table.distinct.sublist ((List.filter_sublist).map _)

/-- Where every value is kept, so is the table. -/
theorem filterValues_of_all {table : Assoc κ υ} {p : υ → Bool}
    (all : ∀ entry ∈ table.entries, p entry.2 = true) : table.filterValues p = table := by
  obtain ⟨entries, distinct⟩ := table
  simp only [filterValues, mk.injEq, List.filter_eq_self]
  exact all

/-- Every value replaced by its image, keys and order kept. -/
def mapValues (table : Assoc κ υ) (f : κ → υ → ω) : Assoc κ ω where
  entries := table.entries.map fun (key, value) => (key, f key value)
  distinct := by
    rw [List.map_map]
    exact table.distinct

@[simp] theorem keys_mapValues (table : Assoc κ υ) (f : κ → υ → ω) :
    (table.mapValues f).keys = table.keys := by
  simp [keys, mapValues, Function.comp_def]

section
variable [DecidableEq κ]

theorem find?_eq_none_iff {key : κ} {entries : List (κ × υ)} :
    find? key entries = none ↔ key ∉ entries.map Prod.fst := by
  induction entries with
  | nil => simp [find?]
  | cons entry rest ih =>
    obtain ⟨other, value⟩ := entry
    by_cases same : other = key
    · simp [find?, same]
    · simp [find?, same, ih, Ne.symm same]

/-- A key has a value exactly if it is one of the keys. -/
theorem contains_iff_mem_keys {table : Assoc κ υ} {key : κ} :
    table.contains key = true ↔ key ∈ table.keys := by
  rw [contains, Option.isSome_iff_ne_none, ne_eq, get?, find?_eq_none_iff, Decidable.not_not, keys]

theorem find?_updateEntries (key other : κ) (f : Option υ → υ) (entries : List (κ × υ)) :
    find? other (updateEntries key f entries) =
      if other = key then some (f (find? key entries)) else find? other entries := by
  induction entries with
  | nil =>
    by_cases same : other = key
    · simp [updateEntries, find?, same]
    · simp [updateEntries, find?, same, Ne.symm same]
  | cons entry rest ih =>
    obtain ⟨first, value⟩ := entry
    by_cases here : first = key
    · subst here
      by_cases same : other = first
      · simp [updateEntries, find?, same]
      · simp [updateEntries, find?, same, Ne.symm same]
    · by_cases same : first = other
      · subst same
        simp [updateEntries, find?, here]
      · simp [updateEntries, find?, here, same, ih]

/-- An update changes the value of its key only. -/
theorem get?_update (table : Assoc κ υ) (key other : κ) (f : Option υ → υ) :
    (table.update key f).get? other =
      if other = key then some (f (table.get? key)) else table.get? other :=
  find?_updateEntries key other f table.entries

/-- An update keeps the order of the keys; a new key comes last. -/
theorem keys_update (table : Assoc κ υ) (key : κ) (f : Option υ → υ) :
    (table.update key f).keys =
      if key ∈ table.keys then table.keys else table.keys ++ [key] :=
  keys_updateEntries key f table.entries

/-- An update takes no key away. -/
theorem contains_update {table : Assoc κ υ} {key other : κ} {f : Option υ → υ} :
    (table.update key f).contains other = true ↔ other = key ∨ table.contains other = true := by
  rw [contains, get?_update]
  by_cases same : other = key
  · simp [same]
  · simp [same, contains]

theorem find?_eq_some_iff {key : κ} {value : υ} {entries : List (κ × υ)}
    (distinct : (entries.map Prod.fst).Nodup) :
    find? key entries = some value ↔ (key, value) ∈ entries := by
  induction entries with
  | nil => simp [find?]
  | cons entry rest ih =>
    obtain ⟨first, other⟩ := entry
    obtain ⟨absent, distinctRest⟩ := List.nodup_cons.mp distinct
    by_cases same : first = key
    · subst same
      have later : (first, value) ∉ rest := fun member =>
        absent (List.mem_map.mpr ⟨_, member, rfl⟩)
      simp [find?, later, eq_comm]
    · simp [find?, same, Ne.symm same, ih distinctRest]

/-- A key has a value exactly if the pair stands in the table. -/
theorem get?_eq_some_iff {table : Assoc κ υ} {key : κ} {value : υ} :
    table.get? key = some value ↔ (key, value) ∈ table.entries :=
  find?_eq_some_iff table.distinct

/-- The pairs are the keys in order, each with its value. -/
theorem entries_of_keys (table : Assoc κ υ) :
    table.entries = table.keys.filterMap fun key => (table.get? key).map (key, ·) := by
  have each : ∀ entry ∈ table.entries,
      some entry = (table.get? entry.1).map (entry.1, ·) := by
    intro entry member
    rw [get?_eq_some_iff.mpr member, Option.map_some]
  have whole : table.entries = (table.entries.map some).filterMap id := by simp
  rw [List.map_congr_left each] at whole
  simpa [keys, List.filterMap_map, Function.comp_def] using whole

/-- Tables with the same keys in the same order and the same values are the same. -/
theorem ext_of_keys {left right : Assoc κ υ} (order : left.keys = right.keys)
    (values : ∀ key, left.get? key = right.get? key) : left = right := by
  have same : left.entries = right.entries := by
    rw [entries_of_keys left, entries_of_keys right, order]
    simp only [values]
  cases left
  cases right
  simpa using same

/-- A key keeps the value that it has. -/
theorem get?_add (table : Assoc κ υ) (key other : κ) (value : υ) :
    (table.add key value).get? other =
      (table.get? other).or (if key = other then some value else none) := by
  rw [add, get?_update]
  by_cases same : other = key
  · subst same
    cases table.get? other <;> simp
  · simp [same, Ne.symm same]

/-- To update a key that has a value is to put the new one in its place. -/
theorem update_of_found {table : Assoc κ υ} {key : κ} {value : υ} (f : Option υ → υ)
    (found : table.get? key = some value) : table.update key f = table.put key (f (some value)) := by
  apply ext_of_keys
  · rw [put, keys_update, keys_update]
  · intro other
    rw [put, get?_update, get?_update, found]

/-- What stands in a table with one more pair is that pair, or stood there before. -/
theorem mem_put {table : Assoc κ υ} {key : κ} {value : υ} {entry : κ × υ}
    (member : entry ∈ (table.put key value).entries) : entry = (key, value) ∨ entry ∈ table.entries := by
  rw [← get?_eq_some_iff, put, get?_update] at member
  split at member
  · next same => exact .inl (Prod.ext same (Option.some.inj member).symm)
  · exact .inr (get?_eq_some_iff.mp member)

/-- A table made of pairs holds nothing else. -/
theorem mem_ofList {pairs : List (κ × υ)} {entry : κ × υ} (member : entry ∈ (ofList pairs).entries) :
    entry ∈ pairs := by
  have run : ∀ (pairs : List (κ × υ)) (table : Assoc κ υ),
      entry ∈ (pairs.foldl (fun table (key, value) => table.put key value) table).entries →
        entry ∈ table.entries ∨ entry ∈ pairs := by
    intro pairs
    induction pairs with
    | nil => exact fun table member => .inl member
    | cons pair rest ih =>
      intro table member
      rcases ih (table.put pair.1 pair.2) member with early | late
      · rcases mem_put early with rfl | before
        · exact .inr List.mem_cons_self
        · exact .inl before
      · exact .inr (List.mem_cons_of_mem _ late)
  exact (run pairs empty member).resolve_left List.not_mem_nil

/-- A key that is not among those updated keeps its value. -/
theorem get?_foldl_update_of_not_mem {keys : List κ} {other : κ} (f : κ → Option υ → υ)
    (absent : other ∉ keys) (table : Assoc κ υ) :
    (keys.foldl (fun table key => table.update key (f key)) table).get? other =
      table.get? other := by
  induction keys generalizing table with
  | nil => rfl
  | cons key rest ih =>
    obtain ⟨different, absentRest⟩ := not_or.mp (fun member => absent (List.mem_cons.mpr member))
    rw [List.foldl_cons, ih absentRest, get?_update, if_neg different]

/-- Of updates with distinct keys each key sees its own only. -/
theorem get?_foldl_update_of_mem {keys : List κ} {other : κ} (f : κ → Option υ → υ)
    (distinct : keys.Nodup) (member : other ∈ keys) (table : Assoc κ υ) :
    (keys.foldl (fun table key => table.update key (f key)) table).get? other =
      some (f other (table.get? other)) := by
  induction keys generalizing table with
  | nil => cases member
  | cons key rest ih =>
    obtain ⟨absent, distinctRest⟩ := List.nodup_cons.mp distinct
    rw [List.foldl_cons]
    rcases List.mem_cons.mp member with rfl | later
    · rw [get?_foldl_update_of_not_mem f absent, get?_update, if_pos rfl]
    · have different : other ≠ key := fun same => absent (same ▸ later)
      rw [ih distinctRest later, get?_update, if_neg different]

/-- A key keeps its value if the value is kept. -/
theorem get?_filterValues (table : Assoc κ υ) (p : υ → Bool) (key : κ) :
    (table.filterValues p).get? key = (table.get? key).filter p := by
  apply Option.ext
  intro value
  simp [get?_eq_some_iff, Option.filter_eq_some_iff, filterValues]

/-- A key with a value has its image. -/
theorem get?_mapValues (table : Assoc κ υ) (f : κ → υ → ω) (key : κ) :
    (table.mapValues f).get? key = (table.get? key).map (f key) := by
  apply Option.ext
  intro value
  simp only [get?_eq_some_iff, Option.map_eq_some_iff, mapValues, List.mem_map, Prod.exists,
    Prod.mk.injEq]
  constructor
  · rintro ⟨_, old, member, rfl, image⟩
    exact ⟨old, member, image⟩
  · rintro ⟨old, member, image⟩
    exact ⟨key, old, member, rfl, image⟩

end
end Assoc
end Concordance
