import Concordance.Assoc
import Concordance.Telemetry.Level

/-!
Loggers form a tree by their names: `a.b` is below `a`, and everything is below the root. A logger
without a threshold of its own has that of the nearest known logger above it.
-/
namespace Concordance

/-- The threshold of the root, and those of the loggers that are known; zero stands for none. -/
structure Loggers where
  root : Nat
  known : Assoc Text Nat

namespace Loggers

def rootName : Text := "root".toList

/-- Whether a name stands for the root. -/
def isRoot (name : Text) : Bool := name.isEmpty || name = rootName

/-- The name of a logger in records. -/
def nameOf (name : Text) : Text := if isRoot name then rootName else name

/-- The places of the dots in a name, last one first. -/
def dots (name : Text) : List Nat := ((List.range name.length).filter (name[·]? == some '.')).reverse

/-- The places that names of loggers above end at. Of dots next to each other every second one is
passed over, and a dot at the beginning ends no name. -/
def cuts (limit : Nat) : List Nat → List Nat
  | [] => []
  | place :: places =>
    if 0 < place ∧ place < limit then place :: cuts (place - 1) places else cuts limit places

theorem lt_of_mem_cuts {limit place : Nat} {places : List Nat} (member : place ∈ cuts limit places) :
    place < limit := by
  induction places generalizing limit with
  | nil => cases member
  | cons first places ih =>
    simp only [cuts] at member
    split at member
    next inside =>
      cases List.mem_cons.mp member with
      | inl same => exact same ▸ inside.2
      | inr later =>
        have := ih later
        omega
    next => exact ih member

/-- The nearest known logger above a logger. -/
def above? (loggers : Loggers) (name : Text) : Option Text :=
  ((cuts name.length (dots name)).map name.take).find? loggers.known.contains

theorem length_above? {loggers : Loggers} {name parent : Text}
    (found : loggers.above? name = some parent) : parent.length < name.length := by
  obtain ⟨place, member, rfl⟩ := List.mem_map.mp (List.mem_of_find?_eq_some found)
  have := lt_of_mem_cuts member
  simp only [List.length_take]
  omega

/-- The threshold that is in force for a logger. -/
def inForce (loggers : Loggers) (name : Text) : Nat :=
  let own := (loggers.known.get? name).getD 0
  if own ≠ 0 then own
  else
    match _found : loggers.above? name with
    | some parent => loggers.inForce parent
    | none => loggers.root
termination_by name.length
decreasing_by exact length_above? _found

/-- Whether a record of a logger is kept. A record without a level never is. -/
def keeps (loggers : Loggers) (name : Text) (level : Level) : Bool :=
  level != .notset && (if isRoot name then loggers.root else loggers.inForce name) ≤ level.rank

def setThreshold (loggers : Loggers) (name : Text) (threshold : Nat) : Loggers :=
  if isRoot name then { loggers with root := threshold }
  else { loggers with known := loggers.known.put name threshold }

/-- Makes a logger known. -/
def meet (loggers : Loggers) (name : Text) : Loggers :=
  if isRoot name then loggers else { loggers with known := loggers.known.add name 0 }

/-- The loggers for a root level and the levels of single loggers, all by name. -/
def configure (level : Text) (levels : List (Text × Text)) : Except LevelError Loggers := do
  let root ← Level.threshold level
  levels.foldlM (fun loggers (name, level) => return loggers.setThreshold name (← Level.threshold level))
    ⟨root, ∅⟩

end Loggers
end Concordance
