import FrameSource.Number.Floating
import FrameSource.Text.Decimal

/-!
# Reading floating-point numbers

The texts that denote a floating-point number: an optional sign, then `inf`, `infinity` or `nan` in
any case, or digits with at most one point among them and an optional exponent. The number is the
nearest one of the format.
-/

namespace FrameSource.Floating

open Text (isDigit natOfDigits readInt?)

/-- The exponent part, from its `e` on; nothing at all counts as exponent zero. -/
def readExponent? : List Char → Option Int
  | [] => some 0
  | c :: cs => if c = 'e' ∨ c = 'E' then readInt? cs else none

/-- The magnitude part of a number: digits, point, digits, exponent. -/
def readMagnitude? (format : BinaryFormat) (negative : Bool) (cs : List Char) :
    Option (Floating format) :=
  let whole := cs.takeWhile isDigit
  let rest := cs.dropWhile isDigit
  let (places, rest) :=
    match rest with
    | '.' :: r => (r.takeWhile isDigit, r.dropWhile isDigit)
    | _ => ([], rest)
  let digits := whole ++ places
  if digits = [] then none
  else (readExponent? rest).map fun e =>
    ofDecimal format negative (natOfDigits digits) (e - places.length)

/-- The words for the numbers that are not finite. -/
def readWord? (format : BinaryFormat) (negative : Bool) (cs : List Char) :
    Option (Floating format) :=
  let word := String.ofList (cs.map Char.toLower)
  if word = "nan" then some .nan
  else if word = "inf" ∨ word = "infinity" then some (.infinite negative)
  else none

/-- A number after its optional sign. -/
def read? (format : BinaryFormat) (s : String) : Option (Floating format) :=
  let (negative, cs) :=
    match s.toList with
    | '-' :: r => (true, r)
    | '+' :: r => (false, r)
    | r => (false, r)
  (readMagnitude? format negative cs).or (readWord? format negative cs)

end FrameSource.Floating
