import Concordance.Files.Tree
import Concordance.Number.FloatText

/-!
Metrics of a search engine, and the text form in which they are exposed and saved. Queries are counted by how they
ended, and how long each took is observed; two gauges give the sizes of the index.
-/
namespace Concordance

/-- How a query ended. -/
inductive Verdict where
  | matched
  | empty
  | rejected
  deriving Repr, DecidableEq

def Verdict.name : Verdict → Text
  | .matched => "matched".toList
  | .empty => "empty".toList
  | .rejected => "rejected".toList

/-- Counts by verdict, in the order in which the verdicts first occurred, the seconds that each query
took, and the numbers of documents and terms. -/
structure Metrics where
  queries : Assoc Verdict Nat
  latencies : List Float
  documents : Nat
  terms : Nat

/-- One line of the text form: a comment, or a sample with its value. -/
inductive MetricLine where
  | comment (text : Text)
  | sample (name value : Text)
  deriving Repr, DecidableEq

def MetricLine.text : MetricLine → Text
  | comment text => "# ".toList ++ text
  | sample name value => name ++ ' ' :: value

namespace Metrics

/-- Nothing counted yet. -/
def fresh : Metrics := ⟨∅, [], 0, 0⟩

def count (metrics : Metrics) (verdict : Verdict) : Metrics :=
  { metrics with queries := metrics.queries.update verdict fun n => n.getD 0 + 1 }

/-- Observes how long a query took. -/
def observe (metrics : Metrics) (seconds : Float) : Metrics :=
  { metrics with latencies := metrics.latencies ++ [seconds] }

def gauge (metrics : Metrics) (documents terms : Nat) : Metrics :=
  { metrics with documents := documents, terms := terms }

/-- How often a verdict was counted, if ever. -/
def countOf? (metrics : Metrics) (verdict : Verdict) : Option Nat := metrics.queries.get? verdict

/-- A count as the value of a sample. -/
def countText (n : Nat) : Text := Integer.decimalNat n ++ ".0".toList

/-- A number of seconds as the value of a sample. -/
def secondsText (x : Float) : Text := FloatText.shortest FloatText.plain x

/-- The upper bounds of the buckets of latencies, with their texts. -/
def buckets : List (Float × String) :=
  [(0.0005, "0.0005"), (0.001, "0.001"), (0.005, "0.005"), (0.01, "0.01"), (0.025, "0.025"),
    (0.05, "0.05"), (0.1, "0.1"), (0.25, "0.25"), (0.5, "0.5")]

/-- A metric is introduced by what it means and of which kind it is. -/
def introduce (name help kind : String) : List MetricLine :=
  [.comment ("HELP ".toList ++ name.toList ++ ' ' :: help.toList),
    .comment ("TYPE ".toList ++ name.toList ++ ' ' :: kind.toList)]

/-- The name of a sample with one label. -/
def labelled (name label : String) (value : Text) : Text :=
  name.toList ++ '\x7b' :: label.toList ++ "=\"".toList ++ value ++ "\"\x7d".toList

def latencyName : String := "positional_search_query_latency_seconds"

def latencyHelp : String := "Query evaluation latency in seconds"

/-- The lines of the latencies. Each bucket counts what does not exceed its bound. -/
def latencyLines (metrics : Metrics) (created : Float) : List MetricLine :=
  let upTo (bound : Float) := countText (metrics.latencies.filter (· ≤ bound)).length
  let bucket (label : Text) (value : Text) :=
    MetricLine.sample (labelled (latencyName ++ "_bucket") "le" label) value
  let total := countText metrics.latencies.length
  introduce latencyName latencyHelp "histogram" ++
    buckets.map (fun (bound, label) => bucket label.toList (upTo bound)) ++
    [bucket "+Inf".toList total, .sample (latencyName ++ "_count").toList total,
      .sample (latencyName ++ "_sum").toList (secondsText (metrics.latencies.foldl (· + ·) 0))] ++
    introduce (latencyName ++ "_created") latencyHelp "gauge" ++
    [.sample (latencyName ++ "_created").toList (secondsText created)]

def queryLines (metrics : Metrics) (created : Float) : List MetricLine :=
  let total := "positional_search_queries_total"
  let createdName := "positional_search_queries_created"
  let help := "Total queries evaluated"
  let counted := metrics.queries.entries
  introduce total help "counter" ++
    counted.map (fun (verdict, n) => .sample (labelled total "outcome" verdict.name) (countText n)) ++
    (if counted.isEmpty then []
     else
      introduce createdName help "gauge" ++ counted.map fun (verdict, _) =>
        .sample (labelled createdName "outcome" verdict.name) (secondsText created))

def gaugeLines (name help : String) (n : Nat) : List MetricLine :=
  introduce name help "gauge" ++ [.sample name.toList (countText n)]

/-- All lines, for metrics that exist since the given time. -/
def lines (metrics : Metrics) (created : Float) : List MetricLine :=
  metrics.latencyLines created ++ metrics.queryLines created ++
    gaugeLines "positional_search_index_document_count" "Documents in the loaded index"
      metrics.documents ++
    gaugeLines "positional_search_index_term_count" "Terms in the loaded index" metrics.terms

def text (metrics : Metrics) (created : Float) : Text :=
  (metrics.lines created).flatMap fun line => line.text ++ ['\n']

end Metrics

/-! ## Files of metrics

The directories that lead to such a file are made here; how the file then gets its metrics is left to a writer,
which can be any. -/

/-- Why something was not written: the file system refused it, or there is no such path. -/
inductive WriteFault where
  | refused (wording : Text)
  | noPath (wording : Text)
  deriving Repr, DecidableEq

/-- A file error as a reason for not writing. -/
def FileError.fault (error : FileError) : WriteFault :=
  match error.cause with
  | .emptyByte => .noPath error.message
  | _ => .refused error.message

/-- Puts metrics into a file. It gives the reason if it fails, and the tree that it leaves. -/
abbrev MetricsWriter := Metrics → Path → FileTree → Option WriteFault × FileTree

/-- The writer that writes to a path of its own beside the file, with a mark behind the file's path, and then
replaces the file. Where this is not possible it leaves nothing behind. -/
def MetricsWriter.replacing (mark : Text) : MetricsWriter := fun metrics path tree =>
  let octets := Utf8.encode (metrics.text 0)
  let beside := Path.ofText (path.text ++ mark)
  match tree.write beside octets with
  | .error error => (some error.fault, tree)
  | .ok _ =>
    match tree.write path octets with
    | .ok replaced => (none, replaced)
    | .error error =>
      let moving : FileError := ⟨error.cause, beside⟩
      (some (.refused (moving.message ++ " -> ".toList ++ Text.quoted path.text)), tree)

/-- Saves metrics in a file, after making the directories that lead to it. -/
def Metrics.save (metrics : Metrics) (writer : MetricsWriter) (path : Path) (tree : FileTree) :
    Option WriteFault × FileTree :=
  let below := tree.makeDirectories path.parent
  match below.failure with
  | none => writer metrics path below.tree
  | some error => (some error.fault, below.tree)

end Concordance
