import Concordance.Text.Basic

/-!
Levels of importance. Records have one of six levels; a threshold is a number, and a record passes it
if its level's number is not below it. A threshold is asked for by name, in letters of either case.
-/
namespace Concordance

/-- How important a record is. -/
inductive Level where
  | notset
  | debug
  | info
  | warning
  | error
  | critical
  deriving Repr, DecidableEq

namespace Level

def all : List Level := [notset, debug, info, warning, error, critical]

/-- The number of a level. -/
def rank : Level → Nat
  | notset => 0
  | debug => 10
  | info => 20
  | warning => 30
  | error => 40
  | critical => 50

def name : Level → Text
  | notset => "NOTSET".toList
  | debug => "DEBUG".toList
  | info => "INFO".toList
  | warning => "WARNING".toList
  | error => "ERROR".toList
  | critical => "CRITICAL".toList

/-- The level with a name. Two levels have a second name. -/
def ofName? (t : Text) : Option Level :=
  if t = "WARN".toList then some warning
  else if t = "FATAL".toList then some critical
  else all.find? (·.name == t)

end Level

/-- Why a threshold is refused. -/
inductive LevelError where
  /-- The name stands for the standard line layout and not for a level. -/
  | layout
  /-- The name stands for the styles of line layouts and not for a level. -/
  | styles
  deriving Repr, DecidableEq

def LevelError.message : LevelError → String
  | .layout => "Unknown level: '%(levelname)s:%(name)s:%(message)s'"
  | .styles =>
    "Level not an integer or a valid string: \x7b" ++
      "'%': (<class 'logging.PercentStyle'>, '%(levelname)s:%(name)s:%(message)s'), " ++
      "'\x7b': (<class 'logging.StrFormatStyle'>, '\x7blevelname\x7d:\x7bname\x7d:\x7bmessage\x7d'), " ++
      "'$': (<class 'logging.StringTemplateStyle'>, " ++
      "'$\x7blevelname\x7d:$\x7bname\x7d:$\x7bmessage\x7d')\x7d"

namespace Level

/-- The letters and ligatures beyond the basic ones whose capitals are basic letters. -/
def foldings : List (Char × Text) :=
  [('ı', ['I']), ('ſ', ['S']), ('ﬀ', "FF".toList), ('ﬁ', "FI".toList), ('ﬂ', "FL".toList),
    ('ﬃ', "FFI".toList), ('ﬄ', "FFL".toList), ('ﬅ', "ST".toList), ('ﬆ', "ST".toList)]

/-- A character in capitals, as far as level names can hold it. -/
def capital (c : Char) : Text :=
  match foldings.find? (·.1 == c) with
  | some (_, t) => t
  | none => [c.toUpper]

/-- The threshold that a name asks for. A name that is no level's asks for `info`. -/
def threshold (name : Text) : Except LevelError Nat :=
  let name := name.flatMap capital
  if name = "BASIC_FORMAT".toList then .error .layout
  else if name = "_STYLES".toList then .error .styles
  else .ok ((ofName? name).getD info).rank

end Level
end Concordance
