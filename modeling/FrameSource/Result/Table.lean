import FrameSource.Result.Frame
import FrameSource.Text.Lines

/-!
# Tables

A frame as a table of text: a header with the names of the columns, a rule, and a line for each row.
The cells of a column are filled up with blanks to one width. The width is the greatest length of the
column's texts in UTF-8, so it is never less than the number of characters of any of them.
-/

namespace FrameSource.Table

/-- A text filled up with blanks to a number of characters. -/
def pad (width : Nat) (s : String) : String :=
  s ++ String.ofList (List.replicate (width - s.length) ' ')

/-- The text of a value; null is a dash. -/
def cellText : Value → String
  | .null => "-"
  | v => v.text

/-- The texts of a column under its name. -/
def columnTexts (c : FrameColumn) : List String :=
  c.values.map cellText

/-- The width of a column. -/
def columnWidth (c : FrameColumn) : Nat :=
  (c.name :: columnTexts c).foldr (fun s width => max s.utf8ByteSize width) 0

/-- The widths of the columns. -/
def widths (f : Frame) : List Nat :=
  f.columns.map columnWidth

/-- A line of texts, each filled up to the width of its column. -/
def line (widths : List Nat) (texts : List String) : String :=
  " | ".intercalate (List.zipWith pad widths texts)

/-- The rule under the header. -/
def rule (widths : List Nat) : String :=
  String.ofList (List.replicate (widths.foldr (· + ·) 0 + 3 * (widths.length - 1)) '-')

/-- The header. -/
def header (f : Frame) : String :=
  line (widths f) (f.columns.map (·.name))

/-- The lines of the rows. -/
def body (f : Frame) : List String :=
  f.rows.map fun row => line (widths f) (row.map cellText)

/-- The lines of a frame. -/
def lines (f : Frame) : List String :=
  if f.columns.isEmpty then ["No columns"]
  else [header f, rule (widths f)] ++ (if f.isEmpty then ["No rows"] else body f)

/-- A frame as a table. -/
def write (f : Frame) : String :=
  Text.unlines (lines f)

end FrameSource.Table
