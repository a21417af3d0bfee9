import Concordance.Ranking.Vector

/-!
Ranking by the cosine between the vector of a query and the vectors of documents, best first; equal
scores are ordered by document.
-/
namespace Concordance

structure RankedDocument where
  doc : DocId
  score : Float

namespace Ranking

/-- The scalar product, over the terms of the query from left to right. -/
def dot (query doc : WeightVector) : Float :=
  query.entries.foldl (fun sum (term, weight) => sum + weight * (doc.get? term).getD 0) 0

/-- The cosine of two vectors with the given lengths; a vector without length is similar to none. -/
def similarity (query doc : WeightVector) (queryLength docLength : Float) : Float :=
  if queryLength == 0 || docLength == 0 then 0 else dot query doc / (queryLength * docLength)

/-- Whether the product of the lengths can be divided by: it may vanish though neither length does. -/
def divides (queryLength docLength : Float) : Bool :=
  queryLength == 0 || docLength == 0 || queryLength * docLength != 0

/-- The cosine of two vectors, unless the product of their lengths vanishes. -/
def similarity? (query doc : WeightVector) (queryLength docLength : Float) :
    Except NumberError Float :=
  if divides queryLength docLength then .ok (similarity query doc queryLength docLength)
  else .error .divisionByZero

/-- Whether a document is ranked before another one. -/
def before (a b : RankedDocument) : Bool :=
  if -a.score == -b.score then !Text.atMost b.doc a.doc else -a.score < -b.score

/-- The order of the ranking: best first, equal scores by document. -/
def order (ranked : List RankedDocument) : List RankedDocument :=
  ranked.mergeSort fun a b => !before b a

def vectorOf (vectors : Assoc DocId WeightVector) (doc : DocId) : WeightVector :=
  (vectors.get? doc).getD ∅

/-- The length of a document's vector: the one that is given, or else its own. -/
def lengthOf (lengths : Assoc DocId Float) (vectors : Assoc DocId WeightVector) (doc : DocId) :
    Float :=
  (lengths.get? doc).getD (vectorOf vectors doc).length

/-- The candidates with their scores, in the order of the ranking. -/
def rank (candidates : List DocId) (query : WeightVector) (vectors : Assoc DocId WeightVector)
    (lengths : Assoc DocId Float) : List RankedDocument :=
  order (candidates.map fun doc =>
    ⟨doc, similarity query (vectorOf vectors doc) query.length (lengthOf lengths vectors doc)⟩)

/-- The ranking, unless some candidate has no score. -/
def rank? (candidates : List DocId) (query : WeightVector) (vectors : Assoc DocId WeightVector)
    (lengths : Assoc DocId Float) : Except NumberError (List RankedDocument) :=
  if candidates.all fun doc => divides query.length (lengthOf lengths vectors doc) then
    .ok (rank candidates query vectors lengths)
  else .error .divisionByZero

end Ranking
end Concordance
