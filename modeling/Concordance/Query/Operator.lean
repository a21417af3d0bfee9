import Concordance.DocSet
import Concordance.Text.Quoted

/-!
Boolean operators. Each has a keyword of one or two words, which stands between blanks in a query, and
a meaning on sets of documents. Operators are looked for in the order in which they are listed.
-/
namespace Concordance

/-- The operators that join two queries. -/
inductive Operator where
  | andNot
  | butNot
  | orNot
  | and
  | or
  deriving Repr, DecidableEq

/-- Why an operator or a split of a query is refused. -/
inductive QueryError where
  /-- The query does not hold the operator at which it is to be split. -/
  | operatorAbsent (operator : Operator) (query : Text)
  /-- The text is no operator's keyword. -/
  | unknownKeyword (keyword : Text)
  /-- The text stands where an operator is needed. -/
  | notAnOperator (given : Text)
  deriving Repr, DecidableEq

namespace Operator

/-- The operators in the order in which they are looked for. -/
def priority : List Operator := [andNot, butNot, orNot, and, or]

@[simp] theorem mem_priority (operator : Operator) : operator ∈ priority := by
  cases operator <;> decide

/-- The words of an operator's keyword. -/
def words : Operator → List Text
  | andNot => ["and".toList, "not".toList]
  | butNot => ["but".toList, "not".toList]
  | orNot => ["or".toList, "not".toList]
  | and => ["and".toList]
  | or => ["or".toList]

def keyword (operator : Operator) : Text := Text.join [' '] operator.words

/-- An operator as it stands in a query, with a space on both sides. -/
def delimited (operator : Operator) : Text := ' ' :: operator.keyword ++ [' ']

/-- The name of an operator in the display of a query. -/
def name : Operator → Text
  | andNot => "AND_NOT".toList
  | butNot => "BUT_NOT".toList
  | orNot => "OR_NOT".toList
  | and => "AND".toList
  | or => "OR".toList

def ofKeyword (keyword : Text) : Except QueryError Operator :=
  match priority.find? (·.keyword == keyword) with
  | some operator => .ok operator
  | none => .error (.unknownKeyword keyword)

/-- The documents of the first set, and those of the universe that are not in the second. -/
def unionComplement (left right all : DocSet) : DocSet := left.union (all.diff right)

/-- The documents that an operator selects. -/
def apply (operator : Operator) (left right all : DocSet) : DocSet :=
  match operator with
  | and => left.inter right
  | or => left.union right
  | andNot => left.diff right
  | butNot => left.diff right
  | orNot => unionComplement left right all

end Operator

def QueryError.message : QueryError → Text
  | .operatorAbsent operator query =>
    "Operator ".toList ++ Text.quoted operator.keyword ++ " not found in query ".toList ++
      Text.quoted query
  | .unknownKeyword keyword => Text.quoted keyword ++ " is not a valid Operator".toList
  | .notAnOperator given => "Unsupported operator: ".toList ++ Text.quoted given

end Concordance
