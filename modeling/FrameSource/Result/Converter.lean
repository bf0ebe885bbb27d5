import FrameSource.Catalog
import FrameSource.Result.Value

/-!
# Converters

A converter turns the scanned cells of one wire type into values. It has a signature, which says what
it takes and gives, and may replace the default decoding. The registry finds a converter by the exact
name of the wire type.
-/

namespace FrameSource

/-- Why a cell could not be converted, or a converter not be registered. -/
inductive ConvertError where
  | shapeMismatch (wireType : String) (cell : Scanned)
  | duplicateType (wireType : String)
deriving DecidableEq, Repr

/-- The wording of a conversion error. -/
def ConvertError.message : ConvertError → String
  | .shapeMismatch wireType cell => "invalid " ++ wireType ++ " value - " ++ cell.describe
  | .duplicateType wireType => "converter for wire type '" ++ wireType ++ "' is already registered"

/-- The wire type that a converter is for, the field type it produces and the shape it scans. -/
structure Signature where
  wireType : String
  fieldType : FieldType
  shape : ScanShape
deriving DecidableEq, Repr

/-- A way to turn scanned cells into values under a given signature. -/
abbrev Decoding := Signature → Scanned → Except ConvertError Value

namespace Decoding

/-- Refuses every cell. -/
def reject : Decoding := fun s cell => .error (.shapeMismatch s.wireType cell)

/-- A missing cell and a null in a nullable target are null. A cell in the shape of the signature is
its value, if its kind is that of the field type. -/
def default : Decoding := fun s cell =>
  match s.shape, cell with
  | _, .missing => .ok .null
  | .nullable, .nullable none => .ok .null
  | .nullable, .nullable (some c) | .direct, .direct c =>
    match s.fieldType.accept c with
    | some v => .ok v
    | none => .error (.shapeMismatch s.wireType cell)
  | _, _ => .error (.shapeMismatch s.wireType cell)

/-- Timestamps in nullable cells, whatever the signature asks for; a missing cell is null. -/
def timestamp : Decoding := fun s cell =>
  match cell with
  | .missing => .ok .null
  | .nullable none => .ok .null
  | .nullable (some (.timestamp t)) => .ok (.timestamp t.instant)
  | _ => .error (.shapeMismatch s.wireType cell)

end Decoding

/-- The rules for one wire type. -/
structure Converter where
  signature : Signature
  custom : Option Decoding

namespace Converter

/-- A converter with the default decoding. -/
def plain (wireType : String) (fieldType : FieldType) (shape : ScanShape) : Converter :=
  ⟨⟨wireType, fieldType, shape⟩, none⟩

/-- The value of a scanned cell. -/
def decode (c : Converter) (cell : Scanned) : Except ConvertError Value :=
  (c.custom.getD Decoding.default) c.signature cell

/-- The diagnostic form of a converter. -/
def describe (c : Converter) : String :=
  "Converter \x7b type_name: " ++ Text.quoted c.signature.wireType ++
    ", field_type: " ++ c.signature.fieldType.describe ++
    ", scan_shape: " ++ c.signature.shape.describe ++
    ", custom_decode: " ++ (if c.custom.isSome then "true" else "false") ++ " \x7d"

/-- The converters of the standard wire types. -/
def standard : List Converter :=
  [plain "BOOL" .bool .direct,
   plain "INT2" .int16 .direct,
   plain "FLOAT4" .nullableFloat32 .nullable,
   plain "FLOAT8" .nullableFloat64 .nullable,
   ⟨⟨"TIMESTAMP", .nullableTime, .nullable⟩, some Decoding.timestamp⟩]

/-- A converter under the name of its wire type. -/
def entry (c : Converter) : String × Converter :=
  (c.signature.wireType, c)

end Converter

/-- Converters by wire type. -/
abbrev ConverterRegistry := Catalog Converter

namespace ConverterRegistry

/-- The registry of the standard wire types. -/
def standard : ConverterRegistry :=
  Catalog.ofList (Converter.standard.map Converter.entry)

/-- A registry built from batches of converters; a wire type that is taken is reported with the
number of the batch that brings it again. -/
def build (batches : List (List Converter)) : Except (Nat × ConvertError) ConverterRegistry :=
  match Catalog.build (batches.map (·.map Converter.entry)) with
  | .ok r => .ok r
  | .error (step, name) => .error (step, .duplicateType name)

end ConverterRegistry

end FrameSource
