import FrameSource.Result.Converter
import FrameSource.Result.Cursor

/-!
# Frames

A frame is a rectangle of typed values: named columns which all have as many values as the frame has
rows. The number of rows is kept apart from the columns, so that a frame without columns still says
how many rows there were.
-/

namespace FrameSource

/-- Why a result set could not be decoded. -/
inductive DecodeError where
  | unknownType (column wireType : String)
  | convert (column : String) (row : Nat) (cause : ConvertError)
  | cursor (cause : CursorError)
  | rowCountMismatch (column : String) (expected actual : Nat)
deriving DecidableEq, Repr

/-- The wording of a decoding error. -/
def DecodeError.message : DecodeError → String
  | .unknownType column wireType =>
    "no converter registered for column '" ++ column ++ "' of type '" ++ wireType ++ "'"
  | .convert column row _ =>
    "failed to convert column '" ++ column ++ "' at row " ++ Text.natText row
  | .cursor cause => "cursor error: " ++ cause.message
  | .rowCountMismatch column expected actual =>
    "row count mismatch: column '" ++ column ++ "' has " ++ Text.natText actual ++
      " rows, expected " ++ Text.natText expected

/-- A decoded column. -/
structure FrameColumn where
  name : String
  wireType : String
  fieldType : FieldType
  values : List Value
deriving DecidableEq, Repr

namespace FrameColumn

/-- How many values the column has. -/
def size (c : FrameColumn) : Nat := c.values.length

/-- The value in a row. -/
def get? (c : FrameColumn) (row : Nat) : Option Value := c.values[row]?

/-- A column in JSON. -/
def toJson (c : FrameColumn) : Json.Value :=
  .object
    [("name", .string c.name), ("type_name", .string c.wireType),
     ("field_type", .string c.fieldType.word), ("values", .array (c.values.map Value.toJson))]

end FrameColumn

/-- Columns of equal length. -/
structure Frame where
  columns : List FrameColumn
  rowCount : Nat
  rectangular : ∀ c ∈ columns, c.size = rowCount
deriving DecidableEq

namespace Frame

/-- The frame of some columns; the error names the first column of another length. -/
def build (columns : List FrameColumn) (rowCount : Nat) : Except DecodeError Frame :=
  match h : columns.find? (fun c => c.size ≠ rowCount) with
  | some c => .error (.rowCountMismatch c.name rowCount c.size)
  | none => .ok ⟨columns, rowCount, by simpa using h⟩

/-- Whether there are no rows. -/
def isEmpty (f : Frame) : Bool := f.rowCount = 0

/-- The first column of a name. -/
def column? (f : Frame) (name : String) : Option FrameColumn :=
  f.columns.find? (·.name = name)

/-- The values of a row, in the order of the columns. -/
def row? (f : Frame) (row : Nat) : Option (List Value) :=
  if row < f.rowCount then f.columns.mapM (·.get? row) else none

/-- The rows in order. -/
def rows (f : Frame) : List (List Value) :=
  (List.range f.rowCount).filterMap f.row?

/-- A frame in JSON. -/
def toJson (f : Frame) : Json.Value :=
  .object
    [("columns", .array (f.columns.map FrameColumn.toJson)),
     ("rows", .number (.int f.rowCount))]

end Frame

end FrameSource
