import Mathlib.Data.List.Forall2
import Concordance.Proofs.JsonSpelling
import Concordance.Telemetry.Emission

/-!
Which records become lines for programs. Whatever data a record carries, nested in whatever way, it becomes one
line with one JSON object, unless one of its integers does not fit into 64 bits: such an integer has no JSON
form, nothing stands in for it, and the record is lost as a whole. All texts of a record, its paths and the wordings
of its errors among them, are sequences of characters; half of a surrogate pair is none.
-/
namespace Concordance.RecordLines
open JsonSpelling

/-! ## Integers of data -/

mutual

/-- The integers that a datum holds, at any depth. A set holds equal data once. -/
def integers : Datum → List Int
  | .int n => [n]
  | .list items => (integersOfAll items).flatten
  | .tuple items => (integersOfAll items).flatten
  | .set _ items => (Datum.arrange items (integersOfAll items)).flatten
  | .map entries => (integersOfEntries entries).flatten
  | _ => []

/-- The integers of each item of a collection. -/
def integersOfAll : List Datum → List (List Int)
  | [] => []
  | item :: items => integers item :: integersOfAll items

def integersOfEntries : List (Text × Datum) → List (List Int)
  | [] => []
  | (_, value) :: entries => integers value :: integersOfEntries entries

end

/-- All integers of a datum fit into 64 bits. -/
def Fitting (datum : Datum) : Prop := ∀ n ∈ integers datum, Datum.fits n = true

instance : DecidablePred Fitting := fun datum =>
  inferInstanceAs (Decidable (∀ n ∈ integers datum, Datum.fits n = true))

theorem integers_of_all (items : List Datum) : integersOfAll items = items.map integers := by
  induction items with
  | nil => rfl
  | cons item items ih => rw [integersOfAll, ih, List.map_cons]

theorem integers_of_entries (entries : List (Text × Datum)) :
    integersOfEntries entries = entries.map fun entry => integers entry.2 := by
  induction entries with
  | nil => rfl
  | cons entry entries ih => rw [integersOfEntries, ih, List.map_cons]

theorem fitting_flatten {α : Type} {items : List α} (datum : α → Datum) :
    (∀ n ∈ (items.map fun item => integers (datum item)).flatten, Datum.fits n = true) ↔
      ∀ item ∈ items, Fitting (datum item) := by
  simp only [List.mem_flatten, List.mem_map]
  constructor
  · intro all item listed n inside
    exact all n ⟨_, ⟨item, listed, rfl⟩, inside⟩
  · rintro each n ⟨_, ⟨item, listed, rfl⟩, inside⟩
    exact each item listed n inside

theorem fitting_list (items : List Datum) : Fitting (.list items) ↔ ∀ item ∈ items, Fitting item := by
  rw [Fitting, integers, integers_of_all]
  exact fitting_flatten id

/-- Of equal members of a set only the first one counts. -/
theorem fitting_set (fixed : Bool) (items : List Datum) :
    Fitting (.set fixed items) ↔ ∀ item ∈ Datum.arrange items items, Fitting item := by
  rw [Fitting, integers, integers_of_all, Datum.arrange_map]
  exact fitting_flatten id

theorem fitting_map (entries : List (Text × Datum)) :
    Fitting (.map entries) ↔ ∀ entry ∈ entries, Fitting entry.2 := by
  rw [Fitting, integers, integers_of_entries]
  exact fitting_flatten Prod.snd

/-! ## Results -/

section
variable {α β γ : Type}

/-- There is a result. -/
def Formed (result : Except DatumError α) : Prop := ∃ value, result = .ok value

theorem formed_ok (value : α) : Formed (.ok value) := ⟨value, rfl⟩

theorem not_formed_error (error : DatumError) : ¬ Formed (.error error : Except DatumError α) := by
  rintro ⟨value, found⟩
  cases found

/-- Only an integer that is too large stands in the way of a result. -/
theorem error_of_unformed {result : Except DatumError α} (unformed : ¬ Formed result) :
    result = .error .integerTooLarge := by
  cases result with
  | ok value => exact absurd (formed_ok value) unformed
  | error error => rfl

theorem formed_map {result : Except DatumError α} (f : α → β) :
    Formed (result >>= fun value => pure (f value)) ↔ Formed result := by
  cases result with
  | ok value => exact iff_of_true (formed_ok _) (formed_ok _)
  | error error => exact iff_of_false (not_formed_error _) (not_formed_error _)

/-- Two results are put together if both are there. -/
theorem formed_both {first : Except DatumError α} {second : Except DatumError β} (f : α → β → γ) :
    Formed (first >>= fun left => second >>= fun right => pure (f left right)) ↔
      Formed first ∧ Formed second := by
  cases first with
  | ok left => exact (formed_map (f left)).trans (and_iff_right (formed_ok left)).symm
  | error error =>
    exact iff_of_false (not_formed_error _) fun both => not_formed_error _ both.1

/-- Results are collected if each of them is there. -/
theorem formed_collect {results : List (Except DatumError α)} :
    Formed (results.mapM id) ↔ ∀ result ∈ results, Formed result := by
  induction results with
  | nil => exact iff_of_true (formed_ok []) (by simp)
  | cons result rest ih =>
    rw [List.mapM_cons, List.forall_mem_cons, ← ih]
    exact formed_both List.cons

end

/-! ## JSON forms -/

theorem json_items (items : List Datum) : Datum.jsonItems items = items.map Datum.json := by
  induction items with
  | nil => rfl
  | cons item items ih => rw [Datum.jsonItems, ih, List.map_cons]

/-- Fields have the names of the entries that they are formed from, in the same order, and their JSON forms. -/
def FormOf (entry : Text × Datum) (field : Text × Json) : Prop :=
  field.1 = entry.1 ∧ entry.2.json = .ok field.2

theorem entries_formed (entries : List (Text × Datum)) :
    Formed (Datum.jsonEntries entries) ↔ ∀ entry ∈ entries, Formed entry.2.json := by
  induction entries with
  | nil => exact iff_of_true (formed_ok []) (by simp)
  | cons entry entries ih =>
    obtain ⟨name, value⟩ := entry
    rw [Datum.jsonEntries, List.forall_mem_cons, ← ih]
    exact formed_both fun field fields => (name, field) :: fields

theorem entries_forms {entries : List (Text × Datum)} {fields : List (Text × Json)}
    (formed : Datum.jsonEntries entries = .ok fields) : List.Forall₂ FormOf entries fields := by
  induction entries generalizing fields with
  | nil =>
    cases formed
    exact .nil
  | cons entry entries ih =>
    obtain ⟨name, value⟩ := entry
    rw [Datum.jsonEntries] at formed
    cases form : value.json with
    | error error => rw [form] at formed; cases formed
    | ok field =>
      cases rest : Datum.jsonEntries entries with
      | error error => rw [form, rest] at formed; cases formed
      | ok others =>
        rw [form, rest] at formed
        cases formed
        exact .cons ⟨rfl, form⟩ (ih rest)

/-- An array is formed if all its items fit, where this is known of each item. -/
theorem formed_array {items : List Datum} (each : ∀ item ∈ items, (Formed item.json ↔ Fitting item)) :
    Formed ((items.map Datum.json).mapM id >>= fun items => pure (Json.array items)) ↔
      ∀ item ∈ items, Fitting item := by
  rw [formed_map, formed_collect, List.forall_mem_map]
  exact forall₂_congr each

mutual

/-- A datum has a JSON form exactly if its integers fit into 64 bits. -/
theorem json_formed_iff (datum : Datum) : Formed datum.json ↔ Fitting datum := by
  cases datum with
  | int n =>
    have here : Fitting (.int n) ↔ Datum.fits n = true := by simp [Fitting, integers]
    rw [here, Datum.json]
    split
    · next fits => exact iff_of_true (formed_ok _) fits
    · next large => exact iff_of_false (not_formed_error _) large
  | list items =>
    rw [fitting_list, Datum.json, json_items]
    exact formed_array (items_formed_iff items)
  | tuple items =>
    rw [show Fitting (.tuple items) ↔ _ from fitting_list items, Datum.json, json_items]
    exact formed_array (items_formed_iff items)
  | set fixed items =>
    rw [fitting_set, Datum.json, json_items, Datum.arrange_map]
    exact formed_array fun item kept => items_formed_iff items item (Datum.mem_of_arrange kept)
  | map entries =>
    rw [fitting_map, Datum.json, formed_map, entries_formed]
    exact forall₂_congr (entries_formed_iff entries)
  | _ => exact iff_of_true (formed_ok _) (by simp [Fitting, integers])

theorem items_formed_iff (items : List Datum) : ∀ item ∈ items, (Formed item.json ↔ Fitting item) := by
  cases items with
  | nil => simp
  | cons item items => exact List.forall_mem_cons.mpr ⟨json_formed_iff item, items_formed_iff items⟩

theorem entries_formed_iff (entries : List (Text × Datum)) :
    ∀ entry ∈ entries, (Formed entry.2.json ↔ Fitting entry.2) := by
  cases entries with
  | nil => simp
  | cons entry entries =>
    exact List.forall_mem_cons.mpr ⟨json_formed_iff entry.2, entries_formed_iff entries⟩

end

/-! ## Lines -/

variable (record : LogRecord) (time : Text) (context : Context)

theorem fitting_text (t : Text) : Fitting (.text t) := by simp [Fitting, integers]

/-- All that a record's line holds fits, if the further fields do and the identifiers of the context. -/
theorem fields_fit (further : ∀ field ∈ record.extra, LogRecord.isWritten field.1 = true → Fitting field.2)
    (identifiers : ∀ key ∈ [Context.traceKey, Context.spanKey], ∀ id,
      context.get? key = some id → Fitting id) :
    ∀ field ∈ (record.fields time context).entries, Fitting field.2 := by
  have identifier (key : Text) (known : key ∈ [Context.traceKey, Context.spanKey]) :
      Fitting ((context.get? key).getD (.text [])) := by
    cases found : context.get? key with
    | none => exact fitting_text []
    | some id => exact identifiers key known id found
  have clipped (datum : Datum) (fits : Fitting datum) : Fitting (LogRecord.clipField datum) := by
    unfold LogRecord.clipField
    split
    · exact fitting_text _
    · exact fits
  intro field member
  have given := Assoc.mem_ofList member
  simp only [List.mem_append, List.mem_cons, List.not_mem_nil, or_false, Option.mem_toList,
    Option.map_eq_some_iff, List.mem_map, List.mem_filter] at given
  rcases given with
    (((rfl | rfl | rfl | rfl | rfl | rfl) | ⟨t, -, rfl⟩) | ⟨failure, -, rfl⟩) |
      ⟨⟨name, value⟩, ⟨listed, written⟩, rfl⟩
  · exact fitting_text _
  · exact fitting_text _
  · exact fitting_text _
  · exact fitting_text _
  · exact identifier _ (by simp)
  · exact identifier _ (by simp)
  · exact fitting_text _
  · exact fitting_text _
  · exact clipped value (further _ listed written)

/-- The line of a record is the spelling of one object, with the record's fields in their order. -/
theorem line_of_fields {line : Text} (written : record.jsonLine time context = .ok line) :
    ∃ object, Value (.object object) line ∧
      List.Forall₂ FormOf (record.fields time context).entries object := by
  rw [LogRecord.jsonLine, Datum.json] at written
  cases formed : Datum.jsonEntries (record.fields time context).entries with
  | error error => rw [formed] at written; cases written
  | ok object =>
    rw [formed] at written
    cases written
    exact ⟨object, value_render _, entries_forms formed⟩

theorem line_formed_iff : Formed (record.jsonLine time context) ↔
    ∀ field ∈ (record.fields time context).entries, Fitting field.2 := by
  rw [← fitting_map, ← json_formed_iff]
  exact formed_map Json.render

theorem names_of_forms {entries : List (Text × Datum)} {object : List (Text × Json)}
    (forms : List.Forall₂ FormOf entries object) : object.map Prod.fst = entries.map Prod.fst := by
  induction forms with
  | nil => rfl
  | cons first _ ih => rw [List.map_cons, List.map_cons, first.1, ih]

/-- A record whose fields fit has a line, which spells its fields as one object. -/
theorem line_of_fitting (fits : ∀ field ∈ (record.fields time context).entries, Fitting field.2) :
    ∃ line object, record.jsonLine time context = .ok line ∧ Visible line ∧
      Value (.object object) line ∧ (object.map Prod.fst).Nodup ∧
      List.Forall₂ FormOf (record.fields time context).entries object := by
  obtain ⟨line, written⟩ := (line_formed_iff record time context).mpr fits
  obtain ⟨object, spelled, forms⟩ := line_of_fields record time context written
  refine ⟨line, object, written, spelled.visible, spelled, ?_, forms⟩
  rw [names_of_forms forms]
  exact (record.fields time context).distinct

/-- What is emitted by name has no further fields. So in JSON it is a line whenever its message can be made. -/
theorem emission_line (emission : Emission) {loggers : Loggers} {message : Text}
    (kept : loggers.keeps emission.logger emission.level = true)
    (made : Template.message emission.template emission.data = .ok message)
    (identifiers : ∀ key ∈ [Context.traceKey, Context.spanKey], ∀ id,
      context.get? key = some id → Fitting id) :
    ∃ line object, emission.line? .json loggers time context = some (line ++ ['\n']) ∧ Visible line ∧
      Value (.object object) line := by
  let record : LogRecord := .plain emission.level (Loggers.nameOf emission.logger) message
  have fits := fields_fit record time context (fun field none => absurd none List.not_mem_nil) identifiers
  obtain ⟨line, object, written, visible, spelled, -, -⟩ := line_of_fitting record time context fits
  refine ⟨line, object, ?_, visible, spelled⟩
  have recorded : emission.record? = some record := by
    rw [Emission.record?, made]
    rfl
  simp [Emission.line?, kept, recorded, written, Except.toOption]

/-- **A record is lost if one of its integers does not fit into 64 bits, and only then.** Where all integers
fit that its fields hold at any depth, its line is there: it is one line, and one JSON object, with the
record's fields in their order, no name twice, each with the JSON form of its datum. Where one of them does
not fit there is no line at all. Only further fields and identifiers bring integers in, so these alone decide,
whatever the message is. This is about texts of characters; a text with half of a surrogate pair in it, which
UTF-8 cannot spell, is not among them. -/
theorem lost_only_by_large_integer :
    ((∀ field ∈ (record.fields time context).entries, Fitting field.2) →
      ∃ line object, record.jsonLine time context = .ok line ∧ Visible line ∧
        Value (.object object) line ∧ (object.map Prod.fst).Nodup ∧
        List.Forall₂ FormOf (record.fields time context).entries object) ∧
    ((∃ field ∈ (record.fields time context).entries, ¬ Fitting field.2) →
      record.jsonLine time context = .error .integerTooLarge) ∧
    ((∀ field ∈ record.extra, LogRecord.isWritten field.1 = true → Fitting field.2) →
      (∀ key ∈ [Context.traceKey, Context.spanKey], ∀ id, context.get? key = some id → Fitting id) →
      ∀ field ∈ (record.fields time context).entries, Fitting field.2) := by
  refine ⟨line_of_fitting record time context, fun ⟨field, listed, large⟩ => ?_,
    fields_fit record time context⟩
  exact error_of_unformed fun written =>
    large ((line_formed_iff record time context).mp written field listed)

/-- A record with data of all kinds inside one another, among them the greatest and the least integer that
fit, an infinite number, octets that are no text, and a private field with an integer that does not fit. -/
theorem mixed_data_written :
    let inner : Datum := .map [("key".toList, .set true [.text "b".toList, .int 1, .bytes true [0xFF]]),
      ("deep".toList, .tuple [.path ⟨[], ["a".toList, "b".toList]⟩, .error "ValueError".toList "no".toList])]
    let record : LogRecord := ⟨"INFO".toList, "app.part".toList, "say \"no\"\n".toList,
      some ⟨"KeyError".toList, "two\nlines".toList⟩,
      [("level".toList, .null), ("_private".toList, .int 18446744073709551616),
        ("data".toList, .list [.int 18446744073709551615, .int (-9223372036854775808), .bool true,
          .float (Double.infinityFloat true), .complex 0 1, inner])]⟩
    let context := Context.of "t".toList "s".toList []
    (∀ field ∈ record.extra, LogRecord.isWritten field.1 = true → Fitting field.2) ∧
      (∀ key ∈ [Context.traceKey, Context.spanKey], ∀ id, context.get? key = some id → Fitting id) ∧
      ∃ line object, record.jsonLine "T".toList context = .ok line ∧ Visible line ∧
        Value (.object object) line ∧ object.map Prod.fst = ["timestamp", "level", "message", "logger",
          "trace_id", "span_id", "component", "exception", "data"].map String.toList := by
  intro inner record context
  have set : Fitting (.set true [.text "b".toList, .int 1, .bytes true [0xFF]]) := by
    rw [fitting_set]
    intro item kept
    have listed := Datum.mem_of_arrange kept
    simp only [List.mem_cons, List.not_mem_nil, or_false] at listed
    rcases listed with rfl | rfl | rfl <;> simp [Fitting, integers, Datum.fits]
  have inner_fits : Fitting inner := by
    simp only [inner, fitting_map, List.forall_mem_cons]
    refine ⟨set, ?_, by simp⟩
    simp [Fitting, integers, integersOfAll]
  have further : ∀ field ∈ record.extra, LogRecord.isWritten field.1 = true → Fitting field.2 := by
    simp only [record, List.forall_mem_cons]
    refine ⟨fun _ => by simp [Fitting, integers], fun written => absurd written (by decide), fun _ => ?_, by simp⟩
    simp only [fitting_list, List.forall_mem_cons]
    refine ⟨?_, ?_, ?_, ?_, ?_, inner_fits, by simp⟩ <;> simp [Fitting, integers, Datum.fits]
  have identifiers : ∀ key ∈ [Context.traceKey, Context.spanKey], ∀ id,
      context.get? key = some id → Fitting id := by
    intro key _ id found
    have listed : (key, id) ∈ _ := Assoc.mem_ofList (Assoc.get?_eq_some_iff.mp found)
    simp only [List.mem_cons, List.not_mem_nil, or_false, Prod.mk.injEq] at listed
    rcases listed with ⟨-, rfl⟩ | ⟨-, rfl⟩ <;> exact fitting_text _
  have total := lost_only_by_large_integer record "T".toList context
  obtain ⟨line, object, written, visible, spelled, -, forms⟩ := total.1 (total.2.2 further identifiers)
  refine ⟨further, identifiers, line, object, written, visible, spelled, ?_⟩
  rw [names_of_forms forms]
  rfl

/-- An integer of one more than 64 bits, at any depth, has no JSON form, and takes the whole record with it. -/
theorem large_integer_loses_record :
    let context := Context.of (List.replicate 32 'a') (List.replicate 16 'b') []
    let record (datum : Datum) : LogRecord :=
      ⟨"INFO".toList, "app.mod.sub".toList, "m".toList, none, [("i".toList, datum)]⟩
    (record (.int 18446744073709551616)).jsonLine "T".toList context = .error .integerTooLarge ∧
      (record (.map [("n".toList, .tuple [.null, .int (-9223372036854775809)])])).jsonLine "T".toList context =
        .error .integerTooLarge := by
  intro context record
  have lost (datum : Datum) (held : ((record datum).fields "T".toList context).get? "i".toList = some datum)
      (large : ¬ Fitting datum) : (record datum).jsonLine "T".toList context = .error .integerTooLarge :=
    error_of_unformed fun written =>
      large ((line_formed_iff _ _ _).mp written _ (Assoc.get?_eq_some_iff.mp held))
  constructor
  · exact lost _ rfl (by simp [Fitting, integers, Datum.fits])
  · exact lost _ rfl (by simp [Fitting, integers, integersOfAll, integersOfEntries, Datum.fits])

end Concordance.RecordLines
