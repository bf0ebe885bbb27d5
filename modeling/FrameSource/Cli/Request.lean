/-!
# Requests

What the program can be asked to do from the command line.
-/

namespace FrameSource.Cli

/-- How a frame is written. -/
inductive OutputFormat where
  | json
  | csv
  | table
deriving DecidableEq, Repr

namespace OutputFormat

/-- The word for a format. -/
def word : OutputFormat → String
  | .json => "json"
  | .csv => "csv"
  | .table => "table"

/-- All formats. -/
def all : List OutputFormat := [.json, .csv, .table]

/-- The format that a word stands for. -/
def ofWord? (s : String) : Option OutputFormat :=
  all.find? fun f => f.word = s

end OutputFormat

/-- What the program does. -/
inductive Command where
  /-- Expand a query template for a time range. -/
  | interpolate (template start stop interval : String)
  /-- Decode the result document in a file. -/
  | decode (path : String) (format : OutputFormat) (skipUnknown : Bool)
  /-- List the wire types. -/
  | types
  /-- List the vocabulary of templates. -/
  | macros
  /-- Describe the connection of the configured datasource. -/
  | connectionString (hostVersion : Option String)
  /-- Write the initial configuration file, or print it. -/
  | config (output : Option String)
deriving DecidableEq, Repr

/-- A command, and the configuration file that it runs under if one is named. -/
structure Request where
  command : Command
  configFile : Option String
deriving DecidableEq, Repr

end FrameSource.Cli
