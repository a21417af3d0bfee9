import Concordance.Assoc
import Concordance.Settings.Binding

/-!
Variables in the values of bindings: `${name}` stands for the value of a name, and `${name:-default}`
for a default where the name has none. A binding may use the ones before it, and those win over the
environment.
-/
namespace Concordance.Substitution

/-- A variable behind its dollar sign and bracket: its name, its default, and the rest. -/
def reference? (t : Text) : Option (Text × Text × Text) :=
  let isName (c : Char) : Bool := c != '\x7d' && c != ':'
  let name := t.takeWhile isName
  match t.dropWhile isName with
  | '\x7d' :: rest => some (name, [], rest)
  | ':' :: '-' :: more =>
    match more.dropWhile (· != '\x7d') with
    | _ :: rest => some (name, more.takeWhile (· != '\x7d'), rest)
    | [] => none
  | _ => none

/-- A value with its variables replaced by what `meaning` says of their names. Each step takes at
least one character. -/
def expand (meaning : Text → Option Text) (most : Nat) (t : Text) : Text :=
  match most with
  | 0 => t
  | more + 1 =>
    match t with
    | [] => []
    | '$' :: '\x7b' :: rest =>
      match reference? rest with
      | some (name, standard, after) => (meaning name).getD standard ++ expand meaning more after
      | none => '$' :: expand meaning more ('\x7b' :: rest)
    | c :: rest => c :: expand meaning more rest

/-- What a name means among the bindings so far and in the environment. A name that is bound to no
value means nothing, whatever the environment says. -/
def meaning (environment : List (Text × Text)) (bound : Assoc Text (Option Text)) (name : Text) :
    Option Text :=
  match bound.get? name with
  | some value => some (value.getD [])
  | none => (environment.reverse.find? (·.1 == name)).map Prod.snd

/-- The values of bindings, with all variables replaced. -/
def resolve (environment : List (Text × Text)) (bindings : List Binding) :
    Assoc Text (Option Text) :=
  bindings.foldl
    (fun bound binding =>
      bound.put binding.name (binding.value.map fun value =>
        expand (meaning environment bound) value.length value))
    ∅

end Concordance.Substitution
