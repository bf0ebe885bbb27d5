import FrameSource.Datasource.Source
import FrameSource.Toml.Parser
import FrameSource.Toml.Record

/-!
# Configuration

The configuration of the program: the settings of its datasource, what becomes of unknown columns,
and logging. It is read from TOML, where everything may be left out; environment variables override
single values, and variables with unusable values are ignored.
-/

namespace FrameSource

/-- How and where the program logs. -/
structure LoggingConfig where
  level : String := "info"
  format : String := "pretty"
  file : Option String := none
deriving DecidableEq, Repr

/-- A configuration. -/
structure Config where
  datasource : Settings := {}
  unknownColumns : UnknownColumnPolicy := .fail
  logging : LoggingConfig := {}
deriving DecidableEq, Repr

namespace Config

/-! ## Reading -/

/-- What becomes of unknown columns. -/
def readDecode? (node : Toml.Node) : Option UnknownColumnPolicy := do
  match ← node.fields? [["unknown_columns"]] with
  | [policy] =>
    RecordSource.orDefault .fail (Toml.source.meaning? UnknownColumnPolicy.ofWord?) policy
  | _ => none

/-- Logging. An array has to give all three values. -/
def readLogging? (node : Toml.Node) : Option LoggingConfig := do
  match node with
  | .array items => if items.length < 3 then none
  | _ => pure ()
  match ← node.fields? [["level"], ["format"], ["file"]] with
  | [level, format, file] =>
    return {
      level := ← RecordSource.orDefault "info" Toml.Node.string? level
      format := ← RecordSource.orDefault "pretty" Toml.Node.string? format
      file := ← RecordSource.orDefault none (fun node => node.string?.map some) file }
  | _ => none

/-- The configuration in the entries of a document. -/
def ofEntries? (es : Toml.Entries) : Option Config :=
  return {
    datasource := ←
      RecordSource.orDefault {} (Settings.read? Toml.source) (es.lookup "datasource")
    unknownColumns := ← RecordSource.orDefault .fail readDecode? (es.lookup "decode")
    logging := ← RecordSource.orDefault {} readLogging? (es.lookup "logging") }

/-- The configuration that a TOML text denotes. -/
def parse? (text : String) : Option Config := do
  ofEntries? (← Toml.parse? text)

/-! ## Overrides -/

/-- The variables that override values. -/
def overrideNames : List String :=
  ["QUESTFRAME_SERVER", "QUESTFRAME_PORT", "QUESTFRAME_USERNAME", "QUESTFRAME_PASSWORD",
    "QUESTFRAME_TLS_MODE", "QUESTFRAME_LOG_LEVEL", "QUESTFRAME_LOG_FORMAT"]

/-- A value that a variable overrides when it is set. -/
def override (var : Option String) (value : String) : String :=
  var.getD value

/-- A value that a variable overrides when it is set to something that can be read. -/
def overrideWith {α : Type} (read : String → Option α) (var : Option String) (value : α) : α :=
  (var.bind read).getD value

/-- A port as it may stand in a variable. -/
def readPort? (s : String) : Option Int64 :=
  (Text.readInt64? s.toList).map Int64.ofInt

/-- The configuration with the variables of an environment applied. -/
def applyOverrides (c : Config) (env : String → Option String) : Config :=
  { c with
    datasource :=
      { c.datasource with
        server := override (env "QUESTFRAME_SERVER") c.datasource.server
        port := overrideWith readPort? (env "QUESTFRAME_PORT") c.datasource.port
        username := override (env "QUESTFRAME_USERNAME") c.datasource.username
        password := override (env "QUESTFRAME_PASSWORD") c.datasource.password
        tlsMode :=
          overrideWith TlsMode.ofWord? (env "QUESTFRAME_TLS_MODE") c.datasource.tlsMode }
    logging :=
      { c.logging with
        level := override (env "QUESTFRAME_LOG_LEVEL") c.logging.level
        format := override (env "QUESTFRAME_LOG_FORMAT") c.logging.format } }

/-- The configuration of an environment alone. -/
def ofEnvironment (env : String → Option String) : Config :=
  applyOverrides {} env

/-- How queries of the configured datasource are run. -/
def querySettings (c : Config) : QuerySettings :=
  ⟨c.datasource.queryTimeout, c.unknownColumns⟩

end Config

end FrameSource
