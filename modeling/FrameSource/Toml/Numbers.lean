import FrameSource.Json.Token
import FrameSource.Number.Floating
import FrameSource.Text.Decimal
import FrameSource.Time.Calendar
import FrameSource.Toml.Node
import FrameSource.Toml.Scan

/-!
# TOML numbers and dates

Integers in four bases, floating-point numbers, and dates and times. Single underscores may stand
between digits. Integers fit 64 bits; a floating-point number may not be so great that it becomes
infinite.
-/

namespace FrameSource.Toml

open Scanner

/-- An underscore between digits, and the digit after it. -/
def underscoreDigit (isDigit : Char → Bool) : Scanner Char := do
  char '_'
  one isDigit

/-- Digits with underscores between them, which are left out. -/
def digits (isDigit : Char → Bool) : Scanner (List Char) := do
  let first ← one isDigit
  let rest ← many (one isDigit <|> underscoreDigit isDigit)
  return first :: rest

/-- A sign: whether it is a minus. -/
def sign : Scanner Bool :=
  (do char '-'; return true) <|> (do char '+'; return false) <|> pure false

/-- Decimal digits without a leading zero, except for zero itself. -/
def wholeDigits : Scanner (List Char) := do
  match ← one Text.isDigit with
  | '0' => return ['0']
  | first =>
    let rest ← many (one Text.isDigit <|> underscoreDigit Text.isDigit)
    return first :: rest

/-- An integer that fits a signed 64-bit word. -/
def boundedInteger (n : Int) : Scanner Node :=
  if Text.inInt64 n then pure (.integer n) else fail

/-- A decimal integer. -/
def decimalInteger : Scanner Node := do
  let negative ← sign
  let n := Text.natOfDigits (← wholeDigits)
  boundedInteger (if negative then -(n : Int) else n)

/-- An integer in another base, after its two-character mark. -/
def basedInteger (mark : Char) (base : Nat) : Scanner Node := do
  chars ['0', mark]
  let ds ← digits fun c =>
    match Json.hexValue? c with
    | some v => v < base
    | none => false
  boundedInteger (ds.foldl (fun n c => base * n + (Json.hexValue? c).getD 0) 0 : Nat)

/-- An integer in any base. -/
def integer : Scanner Node :=
  basedInteger 'x' 16 <|> basedInteger 'o' 8 <|> basedInteger 'b' 2 <|> decimalInteger

/-- The digits after a point. -/
def fraction : Scanner (List Char) := do
  char '.'
  digits Text.isDigit

/-- An exponent. -/
def exponent : Scanner Int := do
  let _ ← one fun c => c = 'e' || c = 'E'
  let negative ← sign
  let n := Text.natOfDigits (← digits Text.isDigit)
  return if negative then -(n : Int) else n

/-- A floating-point number with a fraction, an exponent or both. -/
def decimalFloat : Scanner Node := do
  let negative ← sign
  let whole ← wholeDigits
  let (places, e) ←
    (do return ([], ← exponent)) <|>
      (do
        let places ← fraction
        return (places, (← Scanner.optional exponent).getD 0))
  let x := Floating.ofDecimal .double negative (Text.natOfDigits (whole ++ places))
    (e - places.length)
  if x = .infinite false then fail else return .float x

/-- Infinity and the number that is none. -/
def specialFloat : Scanner Node := do
  let negative ← sign
  (do chars ['i', 'n', 'f']; return .float (.infinite negative)) <|>
    (do chars ['n', 'a', 'n']; return .float .nan)

/-! ## Dates and times -/

/-- A number of exactly so many digits that lies between two bounds. -/
def fixedNumber (count low high : Nat) : Scanner Nat := do
  let mut ds := []
  for _ in List.range count do
    ds := ds ++ [← one Text.isDigit]
  let n := Text.natOfDigits ds
  if low ≤ n ∧ n ≤ high then return n else fail

/-- A date that exists. -/
def date : Scanner Unit := do
  let year ← fixedNumber 4 0 9999
  char '-'
  let month ← fixedNumber 2 1 12
  char '-'
  let day ← fixedNumber 2 1 31
  if CivilDate.isValid ⟨year, month, day⟩ then return () else fail

/-- A time of day with seconds. -/
def time : Scanner Unit := do
  let _ ← fixedNumber 2 0 23
  char ':'
  let _ ← fixedNumber 2 0 59
  char ':'
  let _ ← fixedNumber 2 0 60
  let _ ← Scanner.optional (do char '.'; let _ ← span1 Text.isDigit)

/-- An offset from UTC. -/
def offset : Scanner Unit :=
  (do let _ ← one fun c => c = 'Z' || c = 'z') <|>
    (do
      let _ ← one fun c => c = '+' || c = '-'
      let _ ← fixedNumber 2 0 23
      char ':'
      let _ ← fixedNumber 2 0 59)

/-- A time after the mark that separates it from its date. -/
def timeOfDate : Scanner Unit := do
  let _ ← one fun c => c = 'T' || c = 't' || c = ' '
  time
  let _ ← Scanner.optional offset

/-- A date, a time, or both, perhaps with an offset. -/
def datetime : Scanner Node := do
  (do date; let _ ← Scanner.optional timeOfDate) <|> time
  return .datetime

/-- A number, a date or a time. -/
def number : Scanner Node :=
  datetime <|> decimalFloat <|> specialFloat <|> integer

end FrameSource.Toml
