import Concordance.Telemetry.Monitor

/-!
Monitored search. An engine sets the gauges when it is made. Each search runs inside a span; how long it
takes until the documents are ranked is observed, and it is counted by how it ended. A keyword leaves the
search early, and a ranking that fails leaves it uncounted.
-/
namespace Concordance

/-- How a search ended. -/
def Outcome.verdict : Outcome → Verdict
  | .rejected => .rejected
  | .answered _ documents => if documents.isEmpty then .empty else .matched

namespace Monitored

def engine (index : Index) : Monitored Engine := do
  measure (·.gauge index.documentCount index.size)
  note (.ready index.summary)
  return .ofIndex index

def searchSpan : Text := "search.query".toList

/-- The attribute for the length of a query. -/
def lengthKey : Text := "query.length".toList

def rejectedKey : Text := "query.rejected".toList

/-- The attribute for the number of documents found. -/
def countKey : Text := "query.result_count".toList

/-- Times work. However it ends, how long it took is observed; the clock stands still, so it takes no
time. -/
def timed {α : Type} (work : Monitored α) : Monitored α := do
  let result ← work
  measure (·.observe 0)
  return result

/-- Reports a query that is only a keyword. -/
def reject (query : Text) : Monitored Unit := do
  note (.rejected query)
  measure (·.count Outcome.rejected.verdict)
  setAttribute rejectedKey (.bool true)

/-- Reports the documents that were found for a query. -/
def found (query : Text) (tree : Query) (documents : List RankedDocument) : Monitored Unit := do
  measure (·.count (Outcome.answered tree documents).verdict)
  setAttribute countKey (.int documents.length)
  note (.answered query tree documents.length)

/-- The failure that leaves a span, if any does. -/
def failureOf {α : Type} : Except NumberError α → Option Failure
  | .ok _ => none
  | .error error => some ⟨error.kind.toList, error.message.toList⟩

/-- Answers a query and reports how it went, unless the ranking fails. -/
def respond (engine : Engine) (query : Text) : Monitored (Except NumberError Outcome) := do
  let small := Text.lower query
  if Query.isBareOperator small then
    timed (reject query)
    return .ok .rejected
  else
    let tree := Query.parse small
    match ← timed (return engine.ranking? tree small) with
    | .error error => return .error error
    | .ok documents =>
      found query tree documents
      return .ok (.answered tree documents)

/-- Answers a query in a span of its own. -/
def search (engine : Engine) (query : Text) : Monitored (Except NumberError Outcome) :=
  inSpan searchSpan [(lengthKey, .int (Text.lower query).length)] failureOf fun _ =>
    respond engine query

end Monitored
end Concordance
