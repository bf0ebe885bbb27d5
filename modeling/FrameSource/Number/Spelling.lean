import FrameSource.Number.Shortest
import FrameSource.Text.Decimal

/-!
# Spelling floating-point numbers

The same shortest digits are spelled in three ways: plainly, never with an exponent; precisely,
always recognisable as a floating-point number; and as a JSON number. One record holds what differs.
-/

namespace FrameSource

/-- How a floating-point number is spelled. -/
structure Spelling where
  /-- Which of two equally near shortest decimals is written. -/
  tie : DecimalTie
  /-- The exponents of the leading digit that are written positionally; all of them if absent. -/
  positional : Option (Int × Int)
  /-- Whether a whole number is written with a fraction `.0` in positional form. -/
  fraction : Bool
  /-- Whether an exponent that is not negative has a plus sign. -/
  plusSign : Bool
deriving Repr

namespace Spelling

/-- Plain spelling: positional at every magnitude, whole numbers without a fraction. -/
def plain : Spelling := ⟨.up, none, false, false⟩

/-- Precise spelling: positional from `10 ^ -4` to below `10 ^ 16`, always with a fraction there. -/
def precise : Spelling := ⟨.up, some (-4, 15), true, false⟩

/-- JSON spelling of 64-bit numbers. -/
def jsonDouble : Spelling := ⟨.even, some (-5, 15), true, true⟩

/-- JSON spelling of 32-bit numbers. -/
def jsonSingle : Spelling := ⟨.even, some (-6, 12), true, true⟩

/-- Positional form of a decimal. -/
def writePositional (style : Spelling) (d : Decimal) : List Char :=
  let ds := Text.decimal d.digits
  if 0 ≤ d.exponent then
    ds ++ List.replicate d.exponent.toNat '0' ++ (if style.fraction then ['.', '0'] else [])
  else
    let places := (-d.exponent).toNat
    if places < ds.length then
      ds.take (ds.length - places) ++ ['.'] ++ ds.drop (ds.length - places)
    else ['0', '.'] ++ List.replicate (places - ds.length) '0' ++ ds

/-- Form with one digit before the point and an exponent. -/
def writeScientific (style : Spelling) (d : Decimal) : List Char :=
  let ds := Text.decimal d.digits
  let tail := if 1 < ds.length then '.' :: ds.drop 1 else []
  let sign := if style.plusSign ∧ 0 ≤ d.leading then ['+'] else []
  ds.take 1 ++ tail ++ ['e'] ++ sign ++ Text.decimalInt d.leading

/-- A decimal in the form that its magnitude asks for. -/
def writeDecimal (style : Spelling) (d : Decimal) : List Char :=
  match style.positional with
  | none => style.writePositional d
  | some (low, high) =>
    if d.digits = 0 ∨ (low ≤ d.leading ∧ d.leading ≤ high) then style.writePositional d
    else style.writeScientific d

end Spelling

/-- The shortest decimal of a finite magnitude. -/
def BinaryFormat.shortest (format : BinaryFormat) (tie : DecimalTie) (m : Nat) (q : Int) :
    Decimal :=
  if m = 0 then ⟨0, 0⟩ else Shortest.decimal format tie m q

namespace Floating

variable {format : BinaryFormat}

/-- A number in a given spelling. -/
def spell (style : Spelling) : Floating format → String
  | .nan => "NaN"
  | .infinite s => if s then "-inf" else "inf"
  | .finite s m q =>
    String.ofList
      ((if s then ['-'] else []) ++ style.writeDecimal (format.shortest style.tie m q))

end Floating

end FrameSource
