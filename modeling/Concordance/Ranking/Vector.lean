import Concordance.Ranking.Weight

/-!
Weight vectors. A document's vector has an entry for each of its terms, a query's vector one for each of
its words, whether the collection knows the word or not.
-/
namespace Concordance

/-- Weights by term. -/
abbrev WeightVector := Assoc Text Float

namespace WeightVector

/-- The sum of the squares of the weights, added from left to right. -/
def squares (vector : WeightVector) : Float :=
  vector.values.foldl (fun sum weight => sum + weight * weight) 0

def length (vector : WeightVector) : Float := vector.squares.sqrt

/-- Enters the weights of one term into the vectors of its documents. -/
def enterTerm (vectors : Assoc DocId WeightVector) (term : TermStatistics) :
    Assoc DocId WeightVector :=
  term.postings.keys.foldl
    (fun vectors doc =>
      vectors.update doc fun vector => (vector.getD ∅).add term.name (term.weightIn doc))
    vectors

def ofDocuments (index : Index) (statistics : Assoc Text TermStatistics) :
    Assoc DocId WeightVector :=
  statistics.values.foldl enterTerm (Assoc.ofList (index.documents.members.map fun doc => (doc, ∅)))

/-- Enters the weight of a term into the vector of one of its documents, which must have a vector. -/
def enterWeight? (term : TermStatistics) (vectors : Assoc DocId WeightVector) (doc : DocId) :
    Except DocId (Assoc DocId WeightVector) :=
  match vectors.get? doc with
  | some vector => .ok (vectors.put doc (vector.add term.name (term.weightIn doc)))
  | none => .error doc

/-- The vectors of all documents of an index, or else a document that a term names and that has none. -/
def ofDocuments? (index : Index) (statistics : Assoc Text TermStatistics) :
    Except DocId (Assoc DocId WeightVector) :=
  statistics.values.foldlM (fun vectors term => term.postings.keys.foldlM (enterWeight? term) vectors)
    (Assoc.ofList (index.documents.members.map fun doc => (doc, ∅)))

/-- How often each word occurs, in the order of first occurrence. -/
def counts (words : List Text) : Assoc Text Nat :=
  words.foldl (fun table word => table.update word fun count => count.getD 0 + 1) ∅

/-- The vector of a query's words. -/
def ofWords (statistics : Assoc Text TermStatistics) (words : List Text) : WeightVector :=
  (counts words).mapValues fun word count =>
    let rarity :=
      match statistics.get? word with
      | some term => term.rarity
      | none => 0
    Weight.ofFrequency count * rarity

end WeightVector
end Concordance
