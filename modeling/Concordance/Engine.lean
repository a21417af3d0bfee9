import Concordance.Analysis.Token
import Concordance.Query.Evaluation
import Concordance.Ranking.Cosine

/-!
The search engine: an index with the statistics and vectors that every query shares. A query is put into
small letters, evaluated, and its documents are ranked. A query that is nothing but an operator's
keyword is rejected without being evaluated.
-/
namespace Concordance

/-- An index prepared for queries. -/
structure Engine where
  index : Index
  statistics : Assoc Text TermStatistics
  vectors : Assoc DocId WeightVector
  lengths : Assoc DocId Float

/-- How a query was answered. -/
inductive Outcome where
  | rejected
  | answered (tree : Query) (documents : List RankedDocument)

def Outcome.documents : Outcome → List RankedDocument
  | .rejected => []
  | .answered _ documents => documents

def Outcome.isRejected : Outcome → Bool
  | .rejected => true
  | .answered _ _ => false

namespace Engine

/-- The engine of an index. -/
def ofIndex (index : Index) : Engine :=
  let statistics := TermStatistics.ofIndex index
  let vectors := WeightVector.ofDocuments index statistics
  ⟨index, statistics, vectors, vectors.mapValues fun _ vector => vector.length⟩

/-- The documents that a query selects. -/
def evaluate (engine : Engine) (query : Text) : DocSet :=
  (Query.parse (Text.lower query)).evaluate engine.index

def queryVector (engine : Engine) (query : Text) : WeightVector :=
  WeightVector.ofWords engine.statistics (Analysis.analyze (Text.lower query))

/-- The ranking of the documents that a query in small letters selects. -/
def answer (engine : Engine) (query : Text) : Outcome :=
  let tree := Query.parse query
  .answered tree
    (Ranking.rank (tree.evaluate engine.index).members (engine.queryVector query) engine.vectors
      engine.lengths)

/-- The documents that the tree of a query selects, ranked by the vector of the query; the ranking fails if
a document has no score. -/
def ranking? (engine : Engine) (tree : Query) (query : Text) :
    Except NumberError (List RankedDocument) :=
  Ranking.rank? (tree.evaluate engine.index).members (engine.queryVector query) engine.vectors
    engine.lengths

/-- Answers a query. -/
def search (engine : Engine) (query : Text) : Outcome :=
  let query := Text.lower query
  if Query.isBareOperator query then .rejected else engine.answer query

end Engine
end Concordance
