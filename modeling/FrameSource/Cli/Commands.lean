import FrameSource.Cli.Arguments
import FrameSource.Cli.Request

/-!
# Commands

The commands of the program with their options, and how a command line becomes a request. The option
for the configuration file is known before a command and within it; within it counts more.
-/

namespace FrameSource.Cli

/-- A command on the command line: its usage, and what the values that were given ask for. -/
structure CommandForm where
  usage : Usage
  build : (String → Option String) → Option Command

namespace CommandForm

/-- The name of the program. -/
def programName : String := "questframe"

/-- Where the configuration comes from. -/
def configFlag : Flag where
  name := "config"
  short := some 'c'
  effect := .value "CONFIG" .path
  about := "Config file (default: search the standard locations)"

/-- Asks for the help text. -/
def helpFlag : Flag where
  name := "help"
  short := some 'h'
  effect := .help
  about := "Print help"

/-- Asks for the version. -/
def versionFlag : Flag where
  name := "version"
  short := some 'V'
  effect := .version
  about := "Print version"

/-- The usage of a command. After its own options a command knows those for the configuration and for
help. -/
def usageOf (name about : String) (flags : List Flag) (argument : Option Argument) : Usage where
  name := programName ++ " " ++ name
  about := about
  flags := flags ++ [configFlag, helpFlag]
  argument := argument

/-- Expands a query template. -/
def interpolate : CommandForm where
  usage :=
    usageOf "interpolate" "Expand macros in a query"
      [⟨"from", none, .value "FROM" .any, true, none, "Range start (RFC 3339)"⟩,
       ⟨"to", none, .value "TO" .any, true, none, "Range end (RFC 3339)"⟩,
       ⟨"interval", some 'i', .value "INTERVAL" .any, false, some "1m",
        "Sample interval (e.g. 500ms, 30s, 15m, 1h, 1d)"⟩]
      (some ⟨"sql", "SQL", .any, false, "Raw SQL containing $__ macros"⟩)
  build given := do
    return .interpolate (← given "sql") (← given "from") (← given "to")
      ((given "interval").getD "1m")

/-- Decodes a result document. -/
def decode : CommandForm where
  usage :=
    usageOf "decode" "Decode a JSON result document"
      [⟨"format", some 'f', .value "FORMAT" (.oneOf (OutputFormat.all.map OutputFormat.word)),
        false, some OutputFormat.table.word, "Output format"⟩,
       ⟨"skip-unknown", none, .switch, false, none,
        "Skip columns with unsupported wire types instead of failing"⟩]
      (some ⟨"path", "PATH", .path, false, "Path to the result document"⟩)
  build given := do
    let format ←
      match given "format" with
      | some word => OutputFormat.ofWord? word
      | none => some .table
    return .decode (← given "path") format (given "skip-unknown").isSome

/-- Lists the wire types. -/
def types : CommandForm where
  usage := usageOf "types" "List supported wire types" [] none
  build _ := some .types

/-- Lists the vocabulary of templates. -/
def macros : CommandForm where
  usage := usageOf "macros" "List registered macros" [] none
  build _ := some .macros

/-- Describes the connection. -/
def connectionString : CommandForm where
  usage :=
    usageOf "connection-string" "Print the connection string for the configured datasource"
      [⟨"host-version", none, .value "HOST_VERSION" .any, false, none,
        "Host version reported in the application name"⟩]
      none
  build given := some (.connectionString (given "host-version"))

/-- Writes the initial configuration file. -/
def config : CommandForm where
  usage :=
    usageOf "config" "Generate default config file"
      [⟨"output", some 'o', .value "OUTPUT" .path, false, none,
        "Output path (default: stdout)"⟩]
      none
  build given := some (.config (given "output"))

/-- The commands by name. -/
def all : List (String × CommandForm) :=
  [("interpolate", interpolate), ("decode", decode), ("types", types), ("macros", macros),
    ("connection-string", connectionString), ("config", config)]

end CommandForm

/-- What the command for help texts is for. -/
def helpAbout : String := "Print this message or the help of the given subcommand(s)"

/-- The usage of the command for help texts, which takes the name of a command. -/
def helpUsage : Usage where
  name := CommandForm.programName ++ " help"
  about := helpAbout
  argument := some ⟨"command", "COMMAND", .any, true, "Print help for the subcommand(s)"⟩

/-- The usage of the program. -/
def programUsage : Usage where
  name := CommandForm.programName
  about := "QuestDB query macros and typed result decoding"
  flags := [CommandForm.configFlag, CommandForm.helpFlag, CommandForm.versionFlag]
  commands :=
    CommandForm.all.map (fun (name, form) => (name, form.usage.about)) ++ [("help", helpAbout)]

/-- The help text for the command that is named, or for the program. -/
def helpTopic : List String → Stop
  | [] => .help programUsage
  | ["help"] => .help helpUsage
  | [name] =>
    match CommandForm.all.lookup name with
    | some form => .help form.usage
    | none => .misuse
  | _ => .misuse

namespace Request

/-- The request of a command line. -/
def parse (words : List String) : Except Stop Request := do
  match ← programUsage.read {} words with
  | (_, []) => throw .misuse
  | (outer, name :: rest) =>
    if name = "help" then throw (helpTopic rest)
    match CommandForm.all.lookup name with
    | none => throw .misuse
    | some form =>
      let inner ← (← form.usage.read {} rest).1.settle
      let outer ← outer.settle
      match form.build (List.lookup · inner.values) with
      | none => throw .misuse
      | some command =>
        return ⟨command, (inner.values.lookup "config").or (outer.values.lookup "config")⟩

end Request

end FrameSource.Cli
