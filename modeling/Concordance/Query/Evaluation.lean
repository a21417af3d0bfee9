import Concordance.Index.Basic
import Concordance.Query.Parser

/-!
The documents that a query selects from an index, from the leaves up. A leaf is a phrase. A document holds a
phrase if each pair of neighbouring words stands at neighbouring positions and each pair continues where the one
before it ended. The first pair may stand anywhere, and only its first occurrence is tried.
-/
namespace Concordance.Phrase

/-- The anchor that leaves the place of a pair open. The positions that a pair ends at are never
zero, so no pair is anchored there. -/
def unanchored : Int := 0

/-- The position after `first` among ascending positions, if the anchor allows `first`. -/
def follows (anchor first : Int) : List Int → Option Int
  | [] => none
  | second :: rest =>
    if first + 1 < second then none
    else if second = first + 1 ∧ (anchor = unanchored ∨ anchor = first) then some second
    else follows anchor first rest

/-- The end of the first pair of neighbouring positions that the anchor allows. -/
def pair (anchor : Int) (firsts seconds : List Int) : Option Int :=
  firsts.findSome? fun first => follows anchor first seconds

/-- Where a word stands directly after another one in a document. -/
def bigram (index : Index) (doc : DocId) (first second : Text) (anchor : Int) : Option Int :=
  pair anchor (index.positionsOf first doc) (index.positionsOf second doc)

/-- Whether words stand in a row in a document, the first pair at the anchor. -/
def matchFrom (index : Index) (doc : DocId) (anchor : Int) : List Text → Bool
  | first :: second :: rest =>
    match bigram index doc first second anchor with
    | none => false
    | some next => matchFrom index doc next (second :: rest)
  | _ => true

/-- Whether words stand in a row somewhere in a document. -/
def holds (index : Index) (doc : DocId) (words : List Text) : Bool :=
  matchFrom index doc unanchored words

/-- The documents that hold a phrase; a phrase without words is in none. -/
def documents (index : Index) (phrase : Text) : DocSet :=
  match Text.words phrase with
  | [] => ∅
  | [word] => index.documentsContaining word
  | first :: rest =>
    (index.documentsContaining first).filter fun doc => holds index doc (first :: rest)

end Concordance.Phrase

namespace Concordance.Query

/-- The documents that a query selects, where `all` is what a complement is taken in. -/
def evaluateIn (index : Index) (all : DocSet) : Query → DocSet
  | phrase t => Phrase.documents index t
  | node operator left right =>
    operator.apply (evaluateIn index all left) (evaluateIn index all right) all

/-- The documents of the index that a query selects. -/
def evaluate (index : Index) (query : Query) : DocSet := evaluateIn index index.documents query

end Concordance.Query
