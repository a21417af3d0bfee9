import Concordance.Files.Path
import Concordance.Number.Double

/-!
The data that log records carry: numbers, texts, octets, paths and errors, and collections of them. Data
of one kind are ordered; sets are shown in that order and hold equal data once.
-/
namespace Concordance

-- Powers mean the same whatever else is imported.
attribute [local instance (high)] instPowNat

/-- A value in a log record. Octets and sets are either fixed or open to change. -/
inductive Datum where
  | null
  | bool (value : Bool)
  | int (value : Int)
  | float (value : Float)
  | complex (re im : Float)
  | text (value : Text)
  | path (value : Path)
  | bytes (fixed : Bool) (octets : List UInt8)
  | error (kind wording : Text)
  | list (items : List Datum)
  | tuple (items : List Datum)
  | set (fixed : Bool) (items : List Datum)
  | map (entries : List (Text × Datum))
  deriving Inhabited

namespace Datum

/-- The order of two exact numbers. What is not a number has no place in it. -/
def orderNumbers? : Double → Double → Option Ordering
  | .finite ns ms es, .finite nt mt et =>
    let signed (negative : Bool) (mantissa : Nat) (exponent other : Int) : Int :=
      let scaled : Nat := mantissa * 2 ^ (exponent - min exponent other).toNat
      if negative then -(scaled : Int) else scaled
    some (compare (signed ns ms es et) (signed nt mt et es))
  | .infinite ns, .infinite nt => some (compare nt ns)
  | .infinite negative, .finite _ _ _ => some (if negative then .lt else .gt)
  | .finite _ _ _, .infinite negative => some (if negative then .gt else .lt)
  | _, _ => none

/-- The exact value of a datum that is a number on the real line. -/
def number? : Datum → Option Double
  | bool value => some (.finite false value.toNat 0)
  | int value => some (.finite (value < 0) value.natAbs 0)
  | float value => some (.ofFloat value)
  | _ => none

/-- The exact values of the two parts of a datum that is a number. -/
def parts? : Datum → Option (Double × Double)
  | complex re im => some (.ofFloat re, .ofFloat im)
  | datum => (number? datum).map fun x => (x, .finite false 0 0)

/-- Whether two data are the same number. -/
def sameNumber (a b : Datum) : Bool :=
  match parts? a, parts? b with
  | some (x, u), some (y, v) => orderNumbers? x y == some .eq && orderNumbers? u v == some .eq
  | _, _ => false

mutual

/-- The order of two data, if they are of kinds that can be compared. A set comes before those that hold all
its items and more. What has no order can still be equal. -/
def order? : Datum → Datum → Option Ordering
  | null, null => some .eq
  | text a, text b => some (compareOfLessAndEq a b)
  | bytes _ a, bytes _ b => some (compareOfLessAndEq a b)
  | path a, path b => some (compareOfLessAndEq (a.root :: a.parts) (b.root :: b.parts))
  | list a, list b => orderItems? a b
  | tuple a, tuple b => orderItems? a b
  | set _ a, set _ b =>
    match within a b, b.all fun item => holds a item with
    | true, true => some .eq
    | true, false => some .lt
    | false, true => some .gt
    | false, false => none
  | a, b =>
    match number? a, number? b with
    | some x, some y => orderNumbers? x y
    | _, _ => if sameNumber a b then some .eq else none
termination_by structural a => a

/-- The order of two sequences, decided by the first items that differ. -/
def orderItems? : List Datum → List Datum → Option Ordering
  | [], [] => some .eq
  | [], _ :: _ => some .lt
  | _ :: _, [] => some .gt
  | a :: as, b :: bs =>
    match order? a b with
    | some .eq => orderItems? as bs
    | decided => decided
termination_by structural a => a

/-- Whether each of some items equals one of the others. -/
def within : List Datum → List Datum → Bool
  | [], _ => true
  | a :: as, bs => (bs.any fun b => order? a b == some .eq) && within as bs
termination_by structural a => a

/-- Whether one of the items equals a datum. -/
def holds : List Datum → Datum → Bool
  | [], _ => false
  | a :: as, b => order? a b == some .eq || holds as b
termination_by structural a => a

end

/-- Whether two data count as one in a set. -/
def same (a b : Datum) : Bool := order? a b == some .eq

/-- The labelled items with one more, unless its label equals one that is there. -/
def accept {α : Type} (kept : List (Datum × α)) (item : Datum × α) : List (Datum × α) :=
  if kept.any fun other => same item.1 other.1 then kept else kept ++ [item]

/-- The labelled items without those whose label equals an earlier one. -/
def distinct {α : Type} (items : List (Datum × α)) : List (Datum × α) := items.foldl accept []

/-- Whether every two labels can be compared. -/
def comparable {α : Type} (items : List (Datum × α)) : Bool :=
  items.all fun a => items.all fun b => (order? a.1 b.1).isSome

/-- What is said of the items of a set, in the order in which they are shown: ascending, if they can
be compared. -/
def arrange {α : Type} (items : List Datum) (said : List α) : List α :=
  let items := distinct (items.zip said)
  ((if comparable items then items.mergeSort fun a b => order? a.1 b.1 != some .gt else items)).map
    Prod.snd

section
variable {α β : Type} (f : α → β)

private theorem accept_map (kept : List (Datum × α)) (item : Datum × α) :
    accept (kept.map (Prod.map id f)) (Prod.map id f item) = (accept kept item).map (Prod.map id f) := by
  simp only [accept, List.any_map, Function.comp_def, Prod.map_fst, id]
  split <;> simp

private theorem distinct_map (items : List (Datum × α)) :
    distinct (items.map (Prod.map id f)) = (distinct items).map (Prod.map id f) := by
  have run (kept : List (Datum × α)) :
      (items.map (Prod.map id f)).foldl accept (kept.map (Prod.map id f)) =
        (items.foldl accept kept).map (Prod.map id f) := by
    induction items generalizing kept with
    | nil => rfl
    | cons item rest ih => rw [List.map_cons, List.foldl_cons, List.foldl_cons, accept_map, ih]
  exact run []

private theorem distinct_subset (items : List (Datum × α)) : distinct items ⊆ items := by
  have run (kept : List (Datum × α)) : items.foldl accept kept ⊆ kept ++ items := by
    induction items generalizing kept with
    | nil => simp
    | cons item rest ih =>
      have first : accept kept item ⊆ kept ++ [item] := by
        unfold accept
        split <;> simp
      intro found member
      rw [List.append_cons]
      exact (List.mem_append.mp (ih _ member)).elim
        (fun early => List.mem_append_left _ (first early)) (List.mem_append_right _)
  exact run []

/-- What is said of the items has no say in how they are arranged. -/
theorem arrange_map (items : List Datum) (said : List α) :
    arrange items (said.map f) = (arrange items said).map f := by
  have labels (items : List (Datum × α)) :
      comparable (items.map (Prod.map id f)) = comparable items := by
    simp [comparable, List.all_map, Function.comp_def]
  have sorted (items : List (Datum × α)) :
      (items.map (Prod.map id f)).mergeSort (fun a b => order? a.1 b.1 != some .gt) =
        (items.mergeSort fun a b => order? a.1 b.1 != some .gt).map (Prod.map id f) := by
    rw [List.map_mergeSort]
    exact fun _ _ _ _ => rfl
  unfold arrange
  rw [List.zip_map_right]
  simp only [distinct_map, labels, sorted]
  split <;> simp [Function.comp_def]

/-- Only what was said of some item is left. -/
theorem mem_of_arrange {items : List Datum} {said : List α} {x : α} (member : x ∈ arrange items said) :
    x ∈ said := by
  unfold arrange at member
  obtain ⟨⟨label, x⟩, kept, rfl⟩ := List.mem_map.mp member
  have listed : (label, x) ∈ distinct (items.zip said) := by
    split at kept
    · exact (List.mergeSort_perm _ _).mem_iff.mp kept
    · exact kept
  exact (List.of_mem_zip (distinct_subset _ listed)).2

end

end Datum
end Concordance
