import Concordance.Telemetry.Search

/-!
What an engine and its index can be asked for, one question after another. Only a search is monitored; every
other question is answered from what the engine holds.
-/
namespace Concordance

/-- A question to an engine. -/
inductive Operation where
  | search (query : Text)
  | evaluate (query : Text)
  | queryVector (query : Text)
  | statisticsOf (term : Text)
  | vectorOf (doc : DocId)
  | positionsOf (term : Text) (doc : DocId)
  | documentsContaining (term : Text)
  | postingsOf (term : Text)
  | contains (term : Text)
  | documents
  | documentCount
  | terms
  | size
  | index
  | summary
  deriving Repr, DecidableEq

/-- An answer to a question. -/
inductive Reply where
  | outcome (result : Except NumberError Outcome)
  | docs (set : DocSet)
  | vector (weights : Option WeightVector)
  | statistics (term : Option TermStatistics)
  | positions (places : List Int)
  | postings (table : Postings)
  | truth (value : Bool)
  | count (n : Nat)
  | terms (names : List Text)
  | index (index : Index)
  | text (t : Text)

namespace Operation

/-- The query of a search; nothing for any other question. -/
def searched? : Operation → Option Text
  | search query => some query
  | _ => none

/-- Asks an engine. -/
def perform (engine : Engine) : Operation → Monitored Reply
  | search query => return .outcome (← Monitored.search engine query)
  | evaluate query => return .docs (engine.evaluate query)
  | queryVector query => return .vector (some (engine.queryVector query))
  | statisticsOf term => return .statistics (engine.statistics.get? term)
  | vectorOf doc => return .vector (engine.vectors.get? doc)
  | positionsOf term doc => return .positions (engine.index.positionsOf term doc)
  | documentsContaining term => return .docs (engine.index.documentsContaining term)
  | postingsOf term => return .postings (engine.index.postingsOf term)
  | contains term => return .truth (engine.index.contains term)
  | documents => return .docs engine.index.documents
  | documentCount => return .count engine.index.documentCount
  | terms => return .terms engine.index.terms
  | size => return .count engine.index.size
  | index => return .index engine.index
  | summary => return .text engine.index.summary

/-- Asks an engine one question after another. -/
def performAll (engine : Engine) : List Operation → Monitored (List Reply)
  | [] => return []
  | operation :: operations => do
    let reply ← operation.perform engine
    return reply :: (← performAll engine operations)

/-- Makes the engine of an index and asks it. -/
def session (index : Index) (operations : List Operation) : Monitored (List Reply) := do
  performAll (← Monitored.engine index) operations

end Operation
end Concordance
