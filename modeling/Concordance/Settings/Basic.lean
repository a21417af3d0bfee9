import Concordance.Files.Tree
import Concordance.Settings.Substitution
import Concordance.Settings.Value
import Concordance.Telemetry.Level
import Concordance.Telemetry.Span
import Concordance.Text.Lines
import Concordance.Text.LetterCase

/-!
Settings of the program. Each can be given by a variable of the environment or by a binding in a file; the
environment wins. Names are the same in capital and small letters, and unknown names are passed over.
-/
namespace Concordance

structure Settings where
  indexPath : Path
  logLevel : Level
  logJson : Bool
  columnWidth : Int
  termColumnWidth : Int
  scorePrecision : Int
  buildMaxWorkers : Int
  tracingEnabled : Bool
  traceExporter : TraceExporter
  serviceName : Text
  metricsPath : Option Path
  deriving Repr, DecidableEq

inductive SettingsError where
  /-- Values that cannot be used, by the names of their settings in code point order. -/
  | values (faults : List (Text × SettingFault))
  /-- All values can be used, but the level is none. -/
  | unknownLevel (given : Text)
  /-- The file of bindings is no text. -/
  | undecodable (fault : Utf8.Fault)
  deriving Repr, DecidableEq

namespace Settings

/-- The levels that can be set, least important first. -/
def levels : List Level := [.debug, .info, .warning, .error, .critical]

def levelName (level : Level) : Text := Text.lower level.name

/-- The level of a name, blanks around it aside. -/
def level? (t : Text) : Option Level := levels.find? (levelName · == Text.lower (Text.trim t))

def unknownLevelMessage (given : Text) : Text :=
  "Value error, Unknown log level ".toList ++ Text.quoted given ++ "; expected one of ".toList ++
    Text.join ", ".toList (levels.map levelName)

/-- What the name of a setting's variable begins with, in small letters. -/
def namespaceOf : Text := "positional_search_".toList

/-- The file of bindings. -/
def bindingsPath : Path := .ofText ".env".toList

/-- Values of variables by their names in small letters. -/
abbrev Variables := Assoc Text Text

/-- The variables of the environment; of names that differ in case only, the last one counts. -/
def ofEnvironment (environment : List (Text × Text)) : Variables :=
  Assoc.ofList (environment.map fun (name, value) => (Text.lower name, value))

/-- The variables of a file of bindings. -/
def ofBindings (environment : List (Text × Text)) (t : Text) : Assoc Text (Option Text) :=
  Assoc.ofList ((Substitution.resolve environment (Statement.bindings t)).entries.map
    fun (name, value) => (Text.lower name, value))

/-- The value of a setting: from the environment, or else from the file. -/
def given? (environment : Variables) (file : Assoc Text (Option Text)) (name : String) :
    Option Text :=
  let key := namespaceOf ++ name.toList
  match environment.get? key with
  | some value => some value
  | none => (file.get? key).getD none

/-- A setting read from its text, or its standard value. -/
def read {α : Type} (given : String → Option Text) (name : String) (standard : α)
    (reader : Text → Except SettingFault α) : Except (List (Text × SettingFault)) α :=
  match given name with
  | none => .ok standard
  | some t => (reader t).mapError fun fault => [(name.toList, fault)]

/-- Applies a function to a value; faults on both sides are collected. -/
def apply {α β : Type} (f : Except (List (Text × SettingFault)) (α → β))
    (a : Except (List (Text × SettingFault)) α) : Except (List (Text × SettingFault)) β :=
  match f, a with
  | .ok f, .ok a => .ok (f a)
  | .error faults, .ok _ => .error faults
  | .ok _, .error faults => .error faults
  | .error first, .error second => .error (first ++ second)

/-- The settings apart from the level, in which all faults are found. The names come in code point
order. -/
def ofValues (given : String → Option Text) : Except (List (Text × SettingFault)) (Level → Settings) :=
  let exporter (t : Text) : Except SettingFault TraceExporter :=
    (TraceExporter.ofName t).mapError fun _ => .notExporter
  let workers := read given "build_max_workers" 4 (SettingValue.integerFrom 1)
  let column := read given "column_width" 10 (SettingValue.integerFrom 4)
  let path := read given "index_path" (.ofText "positional_index.txt".toList) (.ok ∘ Path.ofText)
  let json := read given "log_json" false SettingValue.bool
  let metrics := read given "metrics_path" none (.ok ∘ some ∘ Path.ofText)
  let precision := read given "score_precision" 4 (SettingValue.integerBetween 0 12)
  let service := read given "service_name" Tracing.standardService .ok
  let termColumn := read given "term_column_width" 15 (SettingValue.integerFrom 4)
  let traceTo := read given "trace_exporter" TraceExporter.none exporter
  let tracing := read given "tracing_enabled" true SettingValue.bool
  let build workers column path json metrics precision service termColumn traceTo tracing level :
      Settings :=
    ⟨path, level, json, column, termColumn, precision, workers, tracing, traceTo, service, metrics⟩
  apply (apply (apply (apply (apply (apply (apply (apply (apply (apply (.ok build) workers) column)
    path) json) metrics) precision) service) termColumn) traceTo) tracing

/-- The settings of an environment and the text of the file of bindings. -/
def ofTexts (environment : List (Text × Text)) (file : Text) : Except SettingsError Settings :=
  let given := given? (ofEnvironment environment) (ofBindings environment file)
  match ofValues given with
  | .error faults => .error (.values faults)
  | .ok settings =>
    let level := (given "log_level").getD (levelName .info)
    match level? level with
    | some level => .ok (settings level)
    | none => .error (.unknownLevel level)

/-- The text of the file of bindings; without such a file there is none. -/
def fileText (tree : FileTree) : Except Utf8.Fault Text :=
  match tree.read bindingsPath with
  | .error _ => .ok []
  | .ok octets => (Utf8.decode octets).map Text.unifyNewlines

/-- The settings of an environment and the file of bindings in a tree. -/
def load (environment : List (Text × Text)) (tree : FileTree) : Except SettingsError Settings := do
  let file ← (fileText tree).mapError .undecodable
  ofTexts environment file

end Settings
end Concordance
