import FrameSource.Cli.Commands
import FrameSource.Cli.Script
import FrameSource.Config.Basic
import FrameSource.Config.Initial
import FrameSource.Datasource.ConnectionString
import FrameSource.Result.Csv
import FrameSource.Result.Document
import FrameSource.Result.Table

/-!
# Running a command line

What a command line prints, and with which exit code the program ends: 0, 1 when a command fails, 2
when the words of the command line do not fit. The configuration is loaded first, then the log file
is opened, then the command runs.
-/

namespace FrameSource.Cli

/-- What the program leaves behind, files apart. -/
structure Outcome where
  exit : UInt32
  stdout : String := ""
  stderr : String := ""
deriving DecidableEq, Repr

/-! ## Failures -/

/-- Why a command failed, and what caused that, the nearest cause first. -/
structure Failure where
  message : String
  causes : List String := []
deriving DecidableEq, Repr

namespace Failure

/-- The causes, numbered when there are several. -/
def causeLines : List String → List String
  | [] => []
  | [cause] => ["    " ++ cause]
  | causes =>
    causes.zipIdx.map fun (cause, i) =>
      let number := Text.natText i
      String.ofList (List.replicate (5 - number.length) ' ') ++ number ++ ": " ++ cause

/-- The report of a failure. -/
def report (f : Failure) : String :=
  let lines :=
    ["Error: " ++ f.message] ++
      (if f.causes.isEmpty then [] else ["", "Caused by:"] ++ causeLines f.causes)
  Text.unlines lines

/-- The failure of a file, within what was to be done with it. -/
def ofFile (doing : String) (e : FileError) : Failure := ⟨doing, [e.message]⟩

/-- The failure to decode a result. -/
def ofDecode (e : DecodeError) : Failure :=
  ⟨e.message,
   match e with
   | .convert _ _ cause => [cause.message]
   | .cursor (.io reason) => [(CursorError.io reason).message, reason]
   | .cursor cause => [cause.message]
   | .unknownType .. | .rowCountMismatch .. => []⟩

end Failure

/-- A script that may fail. -/
abbrev Task := ExceptT Failure Script

/-- Uses of files whose failure is a failure of the command. -/
def orFail (failure : FileError → Failure) (use : Script FileAnswer) : Task String :=
  ExceptT.mk do return (← use).mapError failure

/-- A use of a file whose failure is a failure of the command. -/
def useFile (action : FileAction) (failure : FileError → Failure) : Task String :=
  orFail failure (Script.perform action)

/-! ## Configuration and logging -/

/-- The variables that say where configuration files are. -/
def folderNames : List String := ["XDG_CONFIG_HOME", "HOME"]

/-- The folder for the configuration files of the user. -/
def userConfigFolder? (env : String → Option String) : Option String :=
  match (env "XDG_CONFIG_HOME").filter (·.startsWith "/") with
  | some folder => some folder
  | none => ((env "HOME").filter fun home => !home.isEmpty).map (· ++ "/.config")

/-- Where a configuration file is looked for, in this order. -/
def standardLocations (env : String → Option String) : List String :=
  ((userConfigFolder? env).map (· ++ "/questframe/config.toml")).toList ++
    ["/etc/questframe/config.toml", "./config.toml"]

/-- The configuration in the first of some files that holds one. -/
def firstConfig : List String → Script (Option Config)
  | [] => return none
  | path :: paths => do
    match ← Script.perform (.read path) with
    | .error _ => firstConfig paths
    | .ok text =>
      match Config.parse? text with
      | some c => return some c
      | none => firstConfig paths

/-- The configuration in a file that is named. -/
def namedConfig (path : String) : Task Config := do
  let text ← useFile (.read path) fun e =>
    ⟨"Failed to read config file " ++ Text.quoted path ++ ": " ++ e.message, []⟩
  match Config.parse? text with
  | some c => return c
  | none => throw ⟨"Failed to parse config file " ++ Text.quoted path, []⟩

/-- The configuration that a command runs under. -/
def loadConfig (env : String → Option String) : Option String → Task Config
  | some path => return (← namedConfig path).applyOverrides env
  | none => do
    let found : Option Config ← firstConfig (standardLocations env)
    return (found.getD {}).applyOverrides env

/-- Opens the log file, and only then looks at the format. -/
def openLog (logging : LoggingConfig) : Task Unit := do
  if let some path := logging.file then
    let _ ← useFile (.create path) (.ofFile ("Failed to open log file " ++ path))
  if logging.format ≠ "json" ∧ logging.format ≠ "pretty" then
    throw ⟨"Unknown log format: " ++ logging.format ++ " (expected pretty or json)", []⟩

/-! ## Commands -/

/-- The query of a template for a time range. -/
def expandedQuery (source : Source) (template start stop interval : String) :
    Except Failure String := do
  let range ← (TimeRange.parse start stop).mapError fun e => ⟨e.message, []⟩
  let interval ← (Interval.parse interval).mapError fun e => ⟨e.message, []⟩
  (source.interpolate template ⟨range, interval⟩).mapError fun e => ⟨e.message, []⟩

/-- The frame of a result document. -/
def decodedFrame (source : Source) (document : String) : Except Failure Frame := do
  match ResultDocument.parse? document with
  | none => throw ⟨"invalid result document", []⟩
  | some d =>
    let cursor ← (MemoryCursor.ofDocument d).mapError fun e => ⟨e.message, []⟩
    (source.decode cursor).mapError Failure.ofDecode

/-- A frame in an output format. -/
def writeFrame (f : Frame) : OutputFormat → String
  | .json => f.toJson.indented ++ "\n"
  | .csv => Csv.write f
  | .table => Table.write f

/-- A line of the list of wire types. -/
def typeLine (wireType fieldType shape : String) : String :=
  Table.pad 12 wireType ++ " " ++ Table.pad 12 fieldType ++ " " ++ shape

/-- The list of wire types. -/
def typeList (converters : ConverterRegistry) : List String :=
  [typeLine "Wire type" "Field type" "Scan", String.ofList (List.replicate 34 '-')] ++
    converters.toList.map fun c =>
      typeLine c.signature.wireType c.signature.fieldType.text c.signature.shape.describe

/-- The vocabulary, each name as it is invoked. -/
def macroList (vocabulary : Vocabulary) : List String :=
  vocabulary.names.map (String.ofList Template.marker ++ ·)

/-- The connection string of a datasource, with its password covered. -/
def coveredConnectionString (settings : Settings) (hostVersion : Option String) :
    Except Failure String := do
  settings.validate.mapError fun e => ⟨"Datasource configuration is incomplete", [e.message]⟩
  let covered : Settings := { settings with password := "********" }
  (covered.connectionString (clientVersion hostVersion)).mapError fun e => ⟨e.message, []⟩

/-- The folder of a path and the folders above that one, the nearest first. The topmost folder and the
working folder, which are always there, are left out. -/
def foldersOf (path : String) : List String :=
  let root := if path.startsWith "/" then "/" else ""
  let parts := path.splitOn "/"
  let named := (parts.take 1).filter (· ≠ "") ++ (parts.drop 1).filter fun p => p ≠ "" ∧ p ≠ "."
  (List.range' 1 (named.length - 1)).reverse.map fun depth =>
    root ++ "/".intercalate (named.take depth)

/-- Makes the first of some folders, each of which lies in the next. Those above are made only when
the first cannot be made without them. -/
def makeFolders : List String → Script FileAnswer
  | [] => return .ok ""
  | folder :: above => do
    match ← Script.perform (.makeFolder folder) with
    | .error .notFound =>
      match ← makeFolders above with
      | .ok _ => Script.perform (.makeFolder folder)
      | answer => return answer
    | answer => return answer

/-- Writes the initial configuration file. -/
def writeInitialConfig (path : String) : Task String := do
  let failure (e : FileError) : Failure := ⟨e.message, []⟩
  let _ ← orFail failure (makeFolders (foldersOf path))
  let _ ← useFile (.write path Config.initialText) failure
  return Text.unlines ["Config written to " ++ Text.quoted path]

/-- What a command prints under a configuration. -/
def Command.output (c : Config) : Command → Task String
  | .interpolate template start stop interval =>
    (expandedQuery (.standard c.querySettings) template start stop interval).map
      fun query => Text.unlines [query]
  | .decode path format skipUnknown => do
    let settings := c.querySettings
    let settings := if skipUnknown then { settings with unknownColumns := .skip } else settings
    let document ← useFile (.read path)
      (.ofFile ("Failed to read result document " ++ Text.quoted path))
    let frame ← decodedFrame (.standard settings) document
    return writeFrame frame format
  | .types => return Text.unlines (typeList ConverterRegistry.standard)
  | .macros => return Text.unlines (macroList Vocabulary.standard)
  | .connectionString hostVersion =>
    (coveredConnectionString c.datasource hostVersion).map fun text => Text.unlines [text]
  | .config none => return Config.initialText
  | .config (some path) => writeInitialConfig path

/-- What a request prints in an environment. -/
def Request.output (env : String → Option String) (r : Request) : Task String := do
  let c ← loadConfig env r.configFile
  openLog c.logging
  r.command.output c

/-- Runs the program on the words of a command line in an environment. -/
def execute (env : String → Option String) (words : List String) : Script Outcome :=
  match Request.parse words with
  | .error (.help usage) => return { exit := 0, stdout := usage.help }
  | .error .version =>
    return { exit := 0, stdout := CommandForm.programName ++ " " ++ productVersion ++ "\n" }
  | .error .misuse => return { exit := 2, stderr := programUsage.summary ++ "\n" }
  | .ok request => do
    match ← (request.output env).run with
    | .ok stdout => return { exit := 0, stdout }
    | .error failure => return { exit := 1, stderr := failure.report }

end FrameSource.Cli
