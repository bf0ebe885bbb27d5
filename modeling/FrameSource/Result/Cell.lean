import FrameSource.Number.Spelling
import FrameSource.Text.Quoted
import FrameSource.Time.Rfc3339

/-!
# Wire cells

The values that arrive from a database, and the scanned cells that a converter sees. A scan target
asks for its cells in one of two shapes: a direct target cannot hold a database null and stays
missing, a nullable one can.
-/

namespace FrameSource

/-- A value as it arrives on the wire. -/
inductive Cell where
  | bool (b : Bool)
  | int16 (n : Int16)
  | float32 (x : Single)
  | float64 (x : Double)
  | timestamp (t : ZonedInstant)
  | text (s : String)
deriving DecidableEq, Repr

/-- The diagnostic form of a cell. -/
def Cell.describe : Cell → String
  | .bool b => "Bool(" ++ (if b then "true" else "false") ++ ")"
  | .int16 n => "Int16(" ++ Text.intText n.toInt ++ ")"
  | .float32 x => "Float32(" ++ x.spell .precise ++ ")"
  | .float64 x => "Float64(" ++ x.spell .precise ++ ")"
  | .timestamp t => "Timestamp(" ++ Rfc3339.write t ++ ")"
  | .text s => "Text(" ++ Text.quoted s ++ ")"

/-- The shape in which a target takes its cells. -/
inductive ScanShape where
  | direct
  | nullable
deriving DecidableEq, Repr

/-- The diagnostic form of a shape. -/
def ScanShape.describe : ScanShape → String
  | .direct => "Direct"
  | .nullable => "Nullable"

/-- What a target holds. -/
inductive Scanned where
  | missing
  | direct (cell : Cell)
  | nullable (cell : Option Cell)
deriving DecidableEq, Repr

namespace Scanned

/-- A cell, or database null, in a given shape. -/
def shaped : ScanShape → Option Cell → Scanned
  | .direct, some cell => .direct cell
  | .direct, none => .missing
  | .nullable, cell => .nullable cell

/-- The diagnostic form of a scanned cell. -/
def describe : Scanned → String
  | .missing => "Missing"
  | .direct cell => "Direct(" ++ cell.describe ++ ")"
  | .nullable none => "Nullable(None)"
  | .nullable (some cell) => "Nullable(Some(" ++ cell.describe ++ "))"

end Scanned

end FrameSource
