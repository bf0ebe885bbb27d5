import FrameSource.Json.Printer
import FrameSource.Json.Record
import FrameSource.Result.Cursor

/-!
# Result documents

A result set in JSON: its columns, and its rows as arrays of cells. A cell is read by the wire type
of its column; `null` is database null in every column, and cells of types that are not standard are
kept as text.
-/

namespace FrameSource

/-- Columns and rows, the cells as JSON values. -/
structure ResultDocument where
  columns : List Column
  rows : List (List Json.Value)

namespace ResultDocument

/-- A column: its name and wire type. -/
def readColumn? (t : Json.Tree) : Option Column := do
  match ← t.fields? [["name"], ["type"]] with
  | [some name, some wireType] => return ⟨← name.string?, ← wireType.string?⟩
  | _ => none

/-- The columns. -/
def readColumns? : Json.Tree → Option (List Column)
  | .array items => items.mapM readColumn?
  | _ => none

/-- A row of cells, which stands inside three containers. -/
def readRow? : Json.Tree → Option (List Json.Value)
  | .array items => items.mapM (·.value? (Json.depthLimit - 3))
  | _ => none

/-- The rows. -/
def readRows? : Json.Tree → Option (List (List Json.Value))
  | .array items => items.mapM readRow?
  | _ => none

/-- The document of a JSON text. Columns must be given; without rows there are none. -/
def parse? (text : String) : Option ResultDocument := do
  match ← (← Json.Tree.parse? text).fields? [["columns"], ["rows"]] with
  | [some columns, rows] => return ⟨← readColumns? columns, ← RecordSource.orDefault [] readRows? rows⟩
  | _ => none

end ResultDocument

namespace Cell

/-- A JSON number as a double. -/
def doubleOfNumber : Json.Number → Double
  | .int n => Floating.ofInt .double n
  | .double x => x
  | .single x => x.convert .double

/-- An integer within 16 bits. -/
def int16? (n : Int) : Option Int16 :=
  if -32768 ≤ n ∧ n ≤ 32767 then some (Int16.ofInt n) else none

/-- The cell that a JSON value stands for in a column of a wire type, where `null` is database null.
The error is the fault of a timestamp text, if that is the reason. -/
def ofJson (wireType : String) : Json.Value → Except (Option Rfc3339.Fault) (Option Cell)
  | .null => .ok none
  | v =>
    if wireType = "BOOL" then
      match v with
      | .bool b => .ok (some (.bool b))
      | _ => .error none
    else if wireType = "INT2" then
      match v with
      | .number (.int n) =>
        match int16? n with
        | some k => .ok (some (.int16 k))
        | none => .error none
      | _ => .error none
    else if wireType = "FLOAT4" then
      match v with
      | .number n => .ok (some (.float32 ((doubleOfNumber n).convert .single)))
      | _ => .error none
    else if wireType = "FLOAT8" then
      match v with
      | .number n => .ok (some (.float64 (doubleOfNumber n)))
      | _ => .error none
    else if wireType = "TIMESTAMP" then
      match v with
      | .string s =>
        match Rfc3339.read s.toList with
        | .ok t => .ok (some (.timestamp t))
        | .error fault => .error (some fault)
      | .number (.int n) =>
        match if Text.inInt64 n then Instant.ofMicros? n else none with
        | some t => .ok (some (.timestamp t.utc))
        | none => .error none
      | _ => .error none
    else
      match v with
      | .string s => .ok (some (.text s))
      | v => .ok (some (.text v.compact))

end Cell

namespace MemoryCursor

/-- The cells of a row of a document. The first cell that is not of its type is reported. -/
def documentCells (row : Nat) :
    List Column → List Json.Value → Except CursorError (List (Option Cell))
  | column :: columns, v :: vs =>
    match Cell.ofJson column.wireType v with
    | .error reason =>
      .error (.invalidRow (.documentCell row column.wireType v.compact reason))
    | .ok cell => do
      let cells ← documentCells row columns vs
      return cell :: cells
  | _, _ => .ok []

/-- A row of a document, which must have a cell for each column. -/
def documentRow (columns : List Column) (row : Nat) (vs : List Json.Value) :
    Except CursorError (List (Option Cell)) :=
  if vs.length = columns.length then documentCells row columns vs
  else .error (.invalidRow (.documentWidth row vs.length columns.length))

/-- The rows of a document from number `row` on. -/
def documentRows (columns : List Column) :
    (row : Nat) → List (List Json.Value) → Except CursorError (List (List (Option Cell)))
  | _, [] => .ok []
  | row, vs :: rest => do
    let cells ← documentRow columns row vs
    let rows ← documentRows columns (row + 1) rest
    return cells :: rows

/-- The cursor over the rows of a document. -/
def ofDocument (d : ResultDocument) : Except CursorError MemoryCursor := do
  let rows ← documentRows d.columns 0 d.rows
  return ofRows d.columns rows

end MemoryCursor

end FrameSource
