import FrameSource.Result.Frame

/-!
# Comma-separated values

A frame as records of comma-separated fields, one record a line: the names of the columns, then the
rows. A field stands in double quotes when it holds a comma, a quote or a line break, and a quote
inside quotes is written twice. A record without any character would be a blank line, which readers
skip; it is written as a pair of quotes.
-/

namespace FrameSource.Csv

/-- Whether a field that holds the character has to stand in quotes. -/
def isSpecial (c : Char) : Bool :=
  c = ',' || c = '"' || c = '\n' || c = '\r'

/-- The inside of a quoted field. -/
def doubleQuotes (cs : List Char) : List Char :=
  cs.flatMap fun c => if c = '"' then ['"', '"'] else [c]

/-- A field. -/
def writeField (cs : List Char) : List Char :=
  if cs.any isSpecial then ['"'] ++ doubleQuotes cs ++ ['"'] else cs

/-- Fields with a comma between them. -/
def joinFields : List (List Char) → List Char
  | [] => []
  | [f] => writeField f
  | f :: fs => writeField f ++ [','] ++ joinFields fs

/-- A record with the end of its line. -/
def writeRecord (fields : List (List Char)) : List Char :=
  let line := joinFields fields
  (if line.isEmpty then ['"', '"'] else line) ++ ['\n']

/-- The field of a value; null is the empty field. -/
def fieldText : Value → String
  | .null => ""
  | v => v.text

/-- The records of a frame: the column names, then the rows. -/
def records (f : Frame) : List (List String) :=
  f.columns.map (·.name) :: f.rows.map (·.map fieldText)

/-- A frame as comma-separated values. -/
def write (f : Frame) : String :=
  String.ofList ((records f).flatMap fun r => writeRecord (r.map String.toList))

end FrameSource.Csv
