import FrameSource.Json.Printer
import FrameSource.Result.Cell

/-!
# Field types and values

The values of a decoded column. Every column has a field type, which accepts the cells of one kind;
timestamps lose their offset when they are accepted.
-/

namespace FrameSource

/-- A decoded value. -/
inductive Value where
  | bool (b : Bool)
  | int16 (n : Int16)
  | float32 (x : Single)
  | float64 (x : Double)
  | timestamp (t : Instant)
  | null
deriving DecidableEq, Repr

namespace Value

/-- Whether a value is null. -/
def isNull : Value → Bool
  | .null => true
  | _ => false

/-- A numeric value as a double. -/
def asDouble? : Value → Option Double
  | .int16 n => some (Floating.ofInt .double n.toInt)
  | .float32 x => some (x.convert .double)
  | .float64 x => some x
  | _ => none

/-- The instant of a timestamp. -/
def asInstant? : Value → Option Instant
  | .timestamp t => some t
  | _ => none

/-- The text of a value in tables. -/
def text : Value → String
  | .bool b => if b then "true" else "false"
  | .int16 n => Text.intText n.toInt
  | .float32 x => x.spell .plain
  | .float64 x => x.spell .plain
  | .timestamp t => Rfc3339.write t.utc
  | .null => "null"

/-- A value in JSON. -/
def toJson : Value → Json.Value
  | .bool b => .bool b
  | .int16 n => .number (.int n.toInt)
  | .float32 x => .number (.single x)
  | .float64 x => .number (.double x)
  | .timestamp t => .string (Rfc3339.writeZulu t)
  | .null => .null

end Value

/-- The type of a decoded column. -/
inductive FieldType where
  | bool
  | int16
  | nullableFloat32
  | nullableFloat64
  | nullableTime
deriving DecidableEq, Repr

namespace FieldType

/-- The value of a cell of the kind that the field type takes. -/
def accept : FieldType → Cell → Option Value
  | .bool, .bool b => some (.bool b)
  | .int16, .int16 n => some (.int16 n)
  | .nullableFloat32, .float32 x => some (.float32 x)
  | .nullableFloat64, .float64 x => some (.float64 x)
  | .nullableTime, .timestamp t => some (.timestamp t.instant)
  | _, _ => none

/-- The short name of a field type; a star marks the nullable ones. -/
def text : FieldType → String
  | .bool => "bool"
  | .int16 => "int16"
  | .nullableFloat32 => "*float32"
  | .nullableFloat64 => "*float64"
  | .nullableTime => "*time"

/-- The word for a field type in JSON. -/
def word : FieldType → String
  | .bool => "bool"
  | .int16 => "int16"
  | .nullableFloat32 => "nullable_float32"
  | .nullableFloat64 => "nullable_float64"
  | .nullableTime => "nullable_time"

/-- The diagnostic form of a field type. -/
def describe : FieldType → String
  | .bool => "Bool"
  | .int16 => "Int16"
  | .nullableFloat32 => "NullableFloat32"
  | .nullableFloat64 => "NullableFloat64"
  | .nullableTime => "NullableTime"

end FieldType

end FrameSource
