import Concordance.Proofs.SearchAnswers
import Concordance.Telemetry.Operation

/-!
What telemetry says about the questions that were put to an engine. Every search is counted once, by how it
ended, and timed once; it finishes one span, which tells how it ended. No other question leaves a trace.
-/
namespace Concordance.SearchAccounting

open SearchAnswers

variable {index : Index} {telemetry : Telemetry}

/-! ## One search -/

/-- A query that is only a keyword, blanks around it and capitals aside. -/
def IsKeyword (query : Text) : Prop :=
  ∃ operator : Operator, Text.trim (Text.lower query) = operator.keyword

instance : DecidablePred IsKeyword := fun _ => decidable_of_iff _ bare_iff

/-- A query for which an engine finds documents. -/
def Matches (engine : Engine) (query : Text) : Prop := (engine.search query).documents ≠ []

instance (engine : Engine) : DecidablePred (Matches engine) := fun _ =>
  decidable_of_iff (_ = false) List.isEmpty_eq_false_iff

/-- The attribute that tells how a search ended. -/
def ending : Outcome → Text × Datum
  | .rejected => (Monitored.rejectedKey, .bool true)
  | .answered _ documents => (Monitored.countKey, .int documents.length)

/-- The metrics after one more search. -/
def counted (engine : Engine) (metrics : Metrics) (query : Text) : Metrics :=
  (metrics.observe 0).count (engine.search query).verdict

/-- The attributes of the span of a search. -/
def attributesOf (query : Text) (outcome : Outcome) : Assoc Text Datum :=
  Span.attributesOf [(Monitored.lengthKey, .int (Text.lower query).length), ending outcome]

/-- The span of a search. -/
def spanOf (isRoot : Bool) (query : Text) (outcome : Outcome) : Span :=
  ⟨Monitored.searchSpan, isRoot, attributesOf query outcome, .unset, []⟩

/-- Tracing after one more span, which waits if spans are exported. -/
def finished (tracing : Tracing) (span : Span) : Tracing :=
  { tracing with
    waiting := if tracing.exporting then tracing.waiting ++ [span] else tracing.waiting }

/-- What a piece of work does to telemetry that counts one search: it gives the outcome, counts it, and leaves
tracing as described. -/
structure Searched (engine : Engine) (query : Text) (before : Telemetry) (tracing : Tracing)
    (run : Except NumberError Outcome × Telemetry) : Prop where
  outcome : run.1 = .ok (engine.search query)
  metrics : run.2.metrics = counted engine before.metrics query
  tracing : run.2.tracing = tracing

private theorem run_respond (index : Index) (query : Text) (telemetry : Telemetry) :
    let engine := Engine.ofIndex index
    Searched engine query telemetry
      (telemetry.tracing.setAttribute (ending (engine.search query)).1
        (ending (engine.search query)).2)
      ((Monitored.respond engine query).run telemetry) := by
  simp only [Monitored.respond]
  by_cases bare : Query.isBareOperator (Text.lower query) = true
  · have rejected : (Engine.ofIndex index).search query = .rejected := by rw [search_eq, if_pos bare]
    rw [if_pos bare, rejected]
    exact {
      outcome := by rw [rejected]; rfl
      metrics := by
        rw [counted, rejected, ← Telemetry.metrics_note telemetry (.rejected query)]
        rfl
      tracing := by
        rw [← Telemetry.tracing_note telemetry (.rejected query)]
        rfl }
  · have answered : (Engine.ofIndex index).search query =
        .answered (Query.parse (Text.lower query)) (ranking (Engine.ofIndex index) query) := by
      rw [search_eq, if_neg bare]
    rw [if_neg bare, answered, ranking_succeeds]
    exact {
      outcome := by rw [answered]; rfl
      metrics := by
        rw [counted, answered]
        exact Telemetry.metrics_note _ _
      tracing := Telemetry.tracing_note _ _ }

/-- A search gives its outcome and counts it, whether it is traced or not. -/
theorem run_search_counted (index : Index) (query : Text) (telemetry : Telemetry) :
    let engine := Engine.ofIndex index
    ((Monitored.search engine query).run telemetry).1 = .ok (engine.search query) ∧
      ((Monitored.search engine query).run telemetry).2.metrics =
        counted engine telemetry.metrics query := by
  dsimp only [Monitored.search]
  cases resource : telemetry.tracing.resource with
  | none =>
    rw [Monitored.run_in_no_span resource]
    have inside := run_respond index query telemetry
    exact ⟨inside.outcome, inside.metrics⟩
  | some _ =>
    rw [Monitored.run_in_span (by rw [resource]; rfl)]
    have inside := run_respond index query (telemetry.enter Monitored.searchSpan
      (Span.attributesOf [(Monitored.lengthKey, .int (Text.lower query).length)])).2
    exact ⟨inside.outcome, inside.metrics⟩

/-- With tracing set up, a search finishes one span. -/
theorem run_search_traced (index : Index) (query : Text)
    (traced : telemetry.tracing.resource.isSome = true) :
    ((Monitored.search (Engine.ofIndex index) query).run telemetry).2.tracing =
      finished telemetry.tracing
        (spanOf telemetry.tracing.active.isEmpty query ((Engine.ofIndex index).search query)) := by
  rw [Monitored.search, Monitored.run_in_span traced]
  have inside := run_respond index query (telemetry.enter Monitored.searchSpan
    (Span.attributesOf [(Monitored.lengthKey, .int (Text.lower query).length)])).2
  simp only [Telemetry.leave, inside.outcome, inside.tracing]
  cases active : telemetry.tracing.active <;>
    simp [Telemetry.enter, Tracing.enter, Tracing.setAttribute, Tracing.leave, OpenSpan.finish, active,
      finished, spanOf, attributesOf, Span.attributesOf, Monitored.failureOf]

/-! ## One question after another -/

/-- The queries of the searches among some questions, in order. -/
def searched (operations : List Operation) : List Text := operations.filterMap Operation.searched?

/-- A search is answered by its outcome, and never by a failure. -/
def Answered (engine : Engine) (operation : Operation) (reply : Reply) : Prop :=
  ∀ query, operation = .search query → reply = .outcome (.ok (engine.search query))

/-- Tracing after the searches for some queries. -/
def traced (engine : Engine) (tracing : Tracing) (queries : List Text) : Tracing :=
  queries.foldl
    (fun tracing query =>
      finished tracing (spanOf tracing.active.isEmpty query (engine.search query)))
    tracing

/-- What questions leave behind: answers, and metrics and spans of the searches among them alone. -/
structure Recorded (engine : Engine) (operations : List Operation) (before : Telemetry)
    (replies : List Reply) (after : Telemetry) : Prop where
  answered : List.Forall₂ (Answered engine) operations replies
  metrics : after.metrics = (searched operations).foldl (counted engine) before.metrics
  tracing : before.tracing.resource.isSome = true →
    after.tracing = traced engine before.tracing (searched operations)

/-- Only a search changes telemetry. -/
theorem run_read (engine : Engine) {operation : Operation} (telemetry : Telemetry)
    (read : operation.searched? = none) :
    ((operation.perform engine).run telemetry).2 = telemetry := by
  cases operation <;> first | rfl | cases read

private theorem search_of_searched {operation : Operation} {query : Text}
    (search : operation.searched? = some query) : operation = .search query := by
  cases operation <;> cases search
  rfl

private theorem recorded_one (index : Index) (operation : Operation) (telemetry : Telemetry) :
    let run := (operation.perform (Engine.ofIndex index)).run telemetry
    Recorded (Engine.ofIndex index) [operation] telemetry [run.1] run.2 := by
  cases search : operation.searched? with
  | none =>
    have none_searched : searched [operation] = [] := by simp [searched, search]
    have same := run_read (Engine.ofIndex index) telemetry search
    exact {
      answered := by
        refine .cons (fun query asked => ?_) .nil
        rw [asked] at search
        cases search
      metrics := by rw [same, none_searched]; rfl
      tracing := fun _ => by rw [same, none_searched]; rfl }
  | some query =>
    have one_searched : searched [operation] = [query] := by simp [searched, search]
    obtain rfl := search_of_searched search
    obtain ⟨outcome, metrics⟩ := run_search_counted index query telemetry
    exact {
      answered := by
        refine .cons (fun other asked => ?_) .nil
        cases asked
        exact congrArg Reply.outcome outcome
      metrics := by rw [one_searched]; exact metrics
      tracing := fun traced => by rw [one_searched]; exact run_search_traced index query traced }

private theorem traced_around (engine : Engine) (tracing : Tracing) (queries : List Text) :
    (traced engine tracing queries).resource = tracing.resource ∧
      (traced engine tracing queries).active = tracing.active := by
  induction queries generalizing tracing with
  | nil => exact ⟨rfl, rfl⟩
  | cons query rest ih => exact ih _

private theorem Recorded.append {engine : Engine} {first rest : List Operation}
    {before middle after : Telemetry} {replies more : List Reply}
    (head : Recorded engine first before replies middle)
    (tail : Recorded engine rest middle more after) :
    Recorded engine (first ++ rest) before (replies ++ more) after where
  answered := List.rel_append head.answered tail.answered
  metrics := by
    rw [tail.metrics, head.metrics, ← List.foldl_append, searched, searched, ← List.filterMap_append]
    rfl
  tracing set := by
    have same := head.tracing set
    rw [tail.tracing (by rw [same, (traced_around _ _ _).1]; exact set), same, traced, traced, traced,
      ← List.foldl_append, searched, searched, ← List.filterMap_append]
    rfl

/-- Whatever is asked, and in whatever order, exactly the searches are recorded. -/
theorem recorded_all (index : Index) (operations : List Operation) (telemetry : Telemetry) :
    let run := (Operation.performAll (Engine.ofIndex index) operations).run telemetry
    Recorded (Engine.ofIndex index) operations telemetry run.1 run.2 := by
  induction operations generalizing telemetry with
  | nil => exact ⟨.nil, rfl, fun _ => rfl⟩
  | cons operation rest ih => exact (recorded_one index operation telemetry).append (ih _)

/-! ## What was counted -/

section
variable (engine : Engine) (queries : List Text) {before after : Metrics}

private theorem count_of_counted (verdict : Verdict)
    (run : after = queries.foldl (counted engine) before) :
    (after.countOf? verdict).getD 0 = (before.countOf? verdict).getD 0 +
      queries.countP fun query => (engine.search query).verdict = verdict := by
  subst run
  induction queries generalizing before with
  | nil => rfl
  | cons query rest ih =>
    rw [List.foldl_cons, ih, List.countP_cons]
    by_cases same : (engine.search query).verdict = verdict
    · simp [counted, Metrics.countOf?, Metrics.count, Metrics.observe, Assoc.get?_update, same]
      omega
    · simp [counted, Metrics.countOf?, Metrics.count, Metrics.observe, Assoc.get?_update, same,
        Ne.symm same]

private theorem latencies_of_counted (run : after = queries.foldl (counted engine) before) :
    after.latencies.length = before.latencies.length + queries.length := by
  subst run
  induction queries generalizing before with
  | nil => rfl
  | cons query rest ih =>
    rw [List.foldl_cons, ih]
    simp [counted, Metrics.count, Metrics.observe]
    omega

private theorem gauges_of_counted (run : after = queries.foldl (counted engine) before) :
    after.documents = before.documents ∧ after.terms = before.terms := by
  subst run
  induction queries generalizing before with
  | nil => exact ⟨rfl, rfl⟩
  | cons query rest ih => exact ih

private theorem verdicts_exhaust :
    (queries.countP fun query => (engine.search query).verdict = .rejected) +
        (queries.countP fun query => (engine.search query).verdict = .matched) +
        (queries.countP fun query => (engine.search query).verdict = .empty) = queries.length := by
  induction queries with
  | nil => rfl
  | cons query rest ih =>
    simp only [List.countP_cons, List.length_cons]
    cases (engine.search query).verdict <;> simp <;> omega

end

private theorem rejected_iff (index : Index) (query : Text) :
    ((Engine.ofIndex index).search query).verdict = .rejected ↔ IsKeyword query := by
  rw [search_eq, IsKeyword, ← bare_iff]
  split
  next bare => simp [bare, Outcome.verdict]
  next other =>
    simp only [other, Outcome.verdict]
    split <;> simp

private theorem matched_iff (index : Index) (query : Text) :
    ((Engine.ofIndex index).search query).verdict = .matched ↔
      Matches (Engine.ofIndex index) query := by
  rw [Matches]
  cases (Engine.ofIndex index).search query with
  | rejected => simp [Outcome.verdict, Outcome.documents]
  | answered tree documents => cases documents <;> simp [Outcome.verdict, Outcome.documents]

private theorem empty_iff (index : Index) (query : Text) :
    ((Engine.ofIndex index).search query).verdict = .empty ↔
      ¬ IsKeyword query ∧ ¬ Matches (Engine.ofIndex index) query := by
  rw [← rejected_iff index, ← matched_iff]
  cases ((Engine.ofIndex index).search query).verdict <;> simp

/-! ## What the spans say -/

/-- What the span of a search says of its query and of how it ended. -/
structure Describes (engine : Engine) (query : Text) (span : Span) : Prop where
  name : span.name = "search.query".toList
  length : span.attributes.get? "query.length".toList = some (.int (Text.lower query).length)
  rejected : span.attributes.get? "query.rejected".toList =
    if IsKeyword query then some (.bool true) else none
  count : span.attributes.get? "query.result_count".toList =
    if IsKeyword query then none else some (.int (engine.search query).documents.length)
  /-- There are no further attributes. -/
  attributes : span.attributes.size = 2
  status : span.status = .unset
  events : span.events = []

private theorem span_describes (index : Index) (isRoot : Bool) (query : Text) :
    Describes (Engine.ofIndex index) query
      (spanOf isRoot query ((Engine.ofIndex index).search query)) := by
  have ended := rejected_iff index query
  cases outcome : (Engine.ofIndex index).search query with
  | rejected =>
    have keyword : IsKeyword query := ended.mp (by rw [outcome]; rfl)
    refine ⟨rfl, rfl, ?_, ?_, rfl, rfl, rfl⟩
    · rw [if_pos keyword]; rfl
    · rw [if_pos keyword]; rfl
  | answered tree documents =>
    have other : ¬ IsKeyword query := fun keyword => by
      have rejected := ended.mpr keyword
      rw [outcome, Outcome.verdict] at rejected
      split at rejected <;> cases rejected
    refine ⟨rfl, rfl, ?_, ?_, rfl, rfl, rfl⟩
    · rw [if_neg other]; rfl
    · rw [if_neg other, outcome]; rfl

private theorem waiting_traced (engine : Engine) (tracing : Tracing) (queries : List Text)
    (exporting : tracing.exporting = true) :
    (traced engine tracing queries).waiting = tracing.waiting ++ queries.map fun query =>
      spanOf tracing.active.isEmpty query (engine.search query) := by
  induction queries generalizing tracing with
  | nil => simp [traced]
  | cons query rest ih =>
    have step : traced engine tracing (query :: rest) = traced engine
        (finished tracing (spanOf tracing.active.isEmpty query (engine.search query))) rest := rfl
    rw [step, ih (finished tracing _) exporting]
    simp [finished, exporting]

/-- What telemetry says after an engine was made and asked. -/
structure Accounts (index : Index) (operations : List Operation) (before : Telemetry)
    (replies : List Reply) (after : Telemetry) : Prop where
  /-- Every search is answered. -/
  answered : List.Forall₂ (Answered (Engine.ofIndex index)) operations replies
  /-- The keywords among the queries. -/
  rejected : (after.metrics.countOf? .rejected).getD 0 = (searched operations).countP IsKeyword
  /-- The queries with documents. -/
  matched : (after.metrics.countOf? .matched).getD 0 =
    (searched operations).countP (Matches (Engine.ofIndex index))
  /-- All other queries. -/
  empty : (after.metrics.countOf? .empty).getD 0 = (searched operations).countP fun query =>
    ¬ IsKeyword query ∧ ¬ Matches (Engine.ofIndex index) query
  /-- Every search is counted once and timed once. -/
  sum : (after.metrics.countOf? .rejected).getD 0 + (after.metrics.countOf? .matched).getD 0 +
    (after.metrics.countOf? .empty).getD 0 = after.metrics.latencies.length
  timed : after.metrics.latencies.length = (searched operations).length
  documents : after.metrics.documents = index.documentCount
  terms : after.metrics.terms = index.size
  /-- With tracing set up, no span stays open, and if spans are exported, each search has one. -/
  closed : before.tracing.resource.isSome = true → after.tracing.active = before.tracing.active
  spans : before.tracing.resource.isSome = true → before.tracing.exporting = true →
    ∃ spans, after.tracing.waiting = before.tracing.waiting ++ spans ∧
      List.Forall₂ (Describes (Engine.ofIndex index)) (searched operations) spans

private theorem run_engine (index : Index) (telemetry : Telemetry) :
    let run := (Monitored.engine index).run telemetry
    run.1 = Engine.ofIndex index ∧
      run.2.metrics = telemetry.metrics.gauge index.documentCount index.size ∧
      run.2.tracing = telemetry.tracing :=
  ⟨rfl, Telemetry.metrics_note _ _, Telemetry.tracing_note _ _⟩

/-- From metrics that count nothing yet, an engine that is asked any questions in any order accounts for every
search among them, and for nothing else. -/
theorem searches_accounted (index : Index) (operations : List Operation) (before : Telemetry)
    (fresh : before.metrics = .fresh) :
    (∀ replies after, (Operation.session index operations).run before = (replies, after) →
        Accounts index operations before replies after) ∧
      ∀ (operation : Operation) (telemetry : Telemetry), operation.searched? = none →
        ((operation.perform (Engine.ofIndex index)).run telemetry).2 = telemetry := by
  refine ⟨?_, fun operation telemetry read => run_read _ telemetry read⟩
  rintro replies after session
  obtain ⟨_, metrics, tracing⟩ := run_engine index before
  have record := recorded_all index operations ((Monitored.engine index).run before).2
  change Recorded _ _ _ ((Operation.session index operations).run before).1
    ((Operation.session index operations).run before).2 at record
  rw [session] at record
  have run := record.metrics
  rw [metrics, fresh] at run
  have counts (verdict : Verdict) : (after.metrics.countOf? verdict).getD 0 =
      (searched operations).countP fun query =>
        ((Engine.ofIndex index).search query).verdict = verdict := by
    rw [count_of_counted (Engine.ofIndex index) _ verdict run]
    exact Nat.zero_add _
  have times : after.metrics.latencies.length = (searched operations).length := by
    rw [latencies_of_counted (Engine.ofIndex index) _ run]
    exact Nat.zero_add _
  have spans := record.tracing
  rw [tracing] at spans
  exact {
    answered := record.answered
    rejected := by simp only [counts, rejected_iff]
    matched := by simp only [counts, matched_iff]
    empty := by simp only [counts, empty_iff]
    sum := by rw [counts, counts, counts, times, verdicts_exhaust]
    timed := times
    documents := (gauges_of_counted (Engine.ofIndex index) _ run).1
    terms := (gauges_of_counted (Engine.ofIndex index) _ run).2
    closed := fun set => by rw [spans set, (traced_around _ _ _).2]
    spans := fun set exporting => by
      refine ⟨_, by rw [spans set, waiting_traced _ _ _ exporting], ?_⟩
      rw [List.forall₂_map_right_iff, List.forall₂_same]
      exact fun query _ => span_describes index _ query }

/-- Telemetry with tracing set up and spans exported. -/
def exporting : Telemetry :=
  { Telemetry.fresh with
    tracing := { Tracing.off.setUp Tracing.standardService [] with exporting := true } }

/-- A keyword, a word that is found, and one that is not are counted apart, each with its span. -/
theorem three_endings_counted :
    let index := Index.ofDocuments [("a".toList, "x".toList)]
    let operations : List Operation := [.search " Or ".toList, .size, .search "x".toList,
      .evaluate "x".toList, .search "y".toList]
    let after := ((Operation.session index operations).run exporting).2
    (after.metrics.countOf? .rejected).getD 0 = 1 ∧ (after.metrics.countOf? .matched).getD 0 = 1 ∧
      (after.metrics.countOf? .empty).getD 0 = 1 ∧ after.tracing.waiting.length = 3 := by
  intro index operations after
  obtain ⟨accounts, _⟩ := searches_accounted index operations exporting rfl
  have account := accounts _ after rfl
  obtain ⟨spans, waiting, described⟩ := account.spans rfl rfl
  refine ⟨account.rejected.trans ?_, account.matched.trans ?_, account.empty.trans ?_, ?_⟩
  · decide +kernel
  · decide +kernel
  · decide +kernel
  · rw [waiting]
    exact described.length_eq.symm

end Concordance.SearchAccounting
