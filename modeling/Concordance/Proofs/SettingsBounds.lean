import Concordance.Settings.Basic

/-!
Bounds of the settings. A number is taken from a variable only within the bounds of its setting, and the standard
values keep to them, so all settings that are loaded do.
-/
namespace Concordance.SettingsBounds

open Settings

variable {α β ε : Type} {p : α → Prop} {q : β → Prop}

/-- What is given, if anything is, satisfies a predicate. -/
def Gives (p : α → Prop) (result : Except ε α) : Prop := ∀ a, result = .ok a → p a

theorem Gives.apply {f : Except (List (Text × SettingFault)) (α → β)}
    {a : Except (List (Text × SettingFault)) α} (function : Gives (fun f => ∀ a, p a → q (f a)) f)
    (argument : Gives p a) : Gives q (Settings.apply f a) := by
  intro b given
  cases f with
  | error _ => cases a <;> cases given
  | ok f =>
    cases a with
    | error _ => cases given
    | ok a =>
      cases given
      exact function f rfl a (argument a rfl)

/-- A setting satisfies what its standard value and all values that are read satisfy. -/
theorem gives_read {given : String → Option Text} {name : String} {standard : α}
    {reader : Text → Except SettingFault α} (usual : p standard) (reads : ∀ t, Gives p (reader t)) :
    Gives p (Settings.read given name standard reader) := by
  intro a found
  unfold Settings.read at found
  split at found
  · cases found
    exact usual
  · rename_i t _
    cases read : reader t with
    | error _ =>
      rw [read] at found
      cases found
    | ok value =>
      rw [read] at found
      cases found
      exact reads t a read

theorem gives_integer_from (least : Int) (t : Text) :
    Gives (least ≤ ·) (SettingValue.integerFrom least t) := by
  intro n given
  unfold SettingValue.integerFrom at given
  cases read : SettingValue.integer t with
  | error _ =>
    rw [read] at given
    cases given
  | ok value =>
    rw [read] at given
    change (if value < least then _ else _) = _ at given
    split at given
    · cases given
    · cases given
      omega

theorem gives_integer_between (least greatest : Int) (t : Text) :
    Gives (fun n => least ≤ n ∧ n ≤ greatest) (SettingValue.integerBetween least greatest t) := by
  intro n given
  unfold SettingValue.integerBetween at given
  cases read : SettingValue.integerFrom least t with
  | error _ =>
    rw [read] at given
    cases given
  | ok value =>
    have above := gives_integer_from least t value read
    rw [read] at given
    change (if greatest < value then _ else _) = _ at given
    split at given
    · cases given
    · cases given
      exact ⟨above, by omega⟩

/-- The numbers among the settings are within their bounds. -/
structure InBounds (settings : Settings) : Prop where
  column : 4 ≤ settings.columnWidth
  termColumn : 4 ≤ settings.termColumnWidth
  precision : 0 ≤ settings.scorePrecision ∧ settings.scorePrecision ≤ 12
  workers : 1 ≤ settings.buildMaxWorkers

/-- The level apart, settings are put together from values that are within their bounds. -/
theorem gives_values (given : String → Option Text) :
    Gives (fun settings => ∀ level, InBounds (settings level)) (ofValues given) := by
  have free {α : Type} (result : Except (List (Text × SettingFault)) α) :
      Gives (fun _ => True) result := fun _ _ => trivial
  have atLeast (least standard : Int) (name : String) (usual : least ≤ standard) :
      Gives (least ≤ ·) (Settings.read given name standard (SettingValue.integerFrom least)) :=
    gives_read usual (gives_integer_from least)
  have precise : Gives (fun n => 0 ≤ n ∧ n ≤ 12)
      (Settings.read given "score_precision" 4 (SettingValue.integerBetween 0 12)) :=
    gives_read (by omega) (gives_integer_between 0 12)
  unfold ofValues
  refine .apply (.apply (.apply (.apply (.apply (.apply (.apply (.apply (.apply (.apply ?_
    (atLeast 1 4 _ (by omega))) (atLeast 4 10 _ (by omega))) (free _)) (free _)) (free _)) precise) (free _))
    (atLeast 4 15 _ (by omega))) (free _)) (free _)
  intro build same
  cases same
  intro workers staffed column wide _ _ _ _ _ _ precision precise _ _ termColumn termWide _ _ _ _ level
  exact ⟨wide, termWide, precise, staffed⟩

/-- **Settings that are loaded are within their bounds**, whatever the environment and the file of bindings
hold. -/
theorem loaded_in_bounds {environment : List (Text × Text)} {tree : FileTree} {settings : Settings}
    (loaded : Settings.load environment tree = .ok settings) : InBounds settings := by
  unfold Settings.load at loaded
  cases file : fileText tree with
  | error _ =>
    rw [file] at loaded
    cases loaded
  | ok t =>
    rw [file] at loaded
    change ofTexts environment t = _ at loaded
    unfold ofTexts at loaded
    cases values : ofValues (given? (ofEnvironment environment) (ofBindings environment t)) with
    | error _ =>
      simp only [values] at loaded
      cases loaded
    | ok build =>
      simp only [values] at loaded
      split at loaded
      · cases loaded
        exact gives_values _ build values _
      · cases loaded

end Concordance.SettingsBounds
