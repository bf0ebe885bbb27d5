import FrameSource.Text.Blank
import FrameSource.Text.Decimal
import FrameSource.Time.Instant

/-!
# RFC 3339 texts

Instants as `2024-01-20T12:34:56.789+02:00`. Reading goes from left to right and reports the first
fault it meets; the parts are checked against the calendar as soon as they are complete. Writing uses
the fewest of 0, 3, 6 or 9 fraction digits that are exact, and signs years that need other than four
digits.
-/

namespace FrameSource.Rfc3339

/-- Why a text is not an RFC 3339 instant. -/
inductive Fault where
  | tooShort
  | invalid
  | outOfRange
  | trailing
deriving DecidableEq, Repr

/-- The wording of a fault. -/
def Fault.message : Fault → String
  | .tooShort => "premature end of input"
  | .invalid => "input contains invalid characters"
  | .outOfRange => "input is out of range"
  | .trailing => "trailing input"

/-! ## Reading -/

/-- A reader takes something off the front of a text and leaves the rest. -/
abbrev Reader (α : Type) := List Char → Except Fault (α × List Char)

/-- The number that an ASCII digit stands for. -/
def digitValue (c : Char) : Nat :=
  c.toNat - '0'.toNat

/-- Exactly `count` digits, as the number they denote after the digits already read. -/
def readFixed : Nat → Nat → Reader Nat
  | 0, n, cs => .ok (n, cs)
  | count + 1, n, c :: cs =>
    if Text.isDigit c then readFixed count (10 * n + digitValue c) cs else .error .invalid
  | _ + 1, _, [] => .error .invalid

/-- One character out of a given list. -/
def readMark (marks : List Char) : Reader Unit
  | c :: cs => if c ∈ marks then .ok ((), cs) else .error .invalid
  | [] => .error .tooShort

/-- The fraction of a second, if a point follows: at least one digit, of which the first nine count
as nanoseconds. -/
def readFraction : Reader Nat
  | '.' :: cs =>
    let digits := cs.takeWhile Text.isDigit
    let rest := cs.dropWhile Text.isDigit
    if digits.isEmpty then .error (if cs.isEmpty then .tooShort else .invalid)
    else
      let kept := digits.take 9
      .ok (Text.natOfDigits kept * Nat.pow 10 (9 - kept.length), rest)
  | cs => .ok (0, cs)

/-- Two digits, where the text may end too early. A single character outside ASCII is as long as two
digits, so it is wrong rather than missing. -/
def readTwoDigits : Reader (Nat × Nat)
  | a :: b :: cs =>
    if Text.isDigit a && Text.isDigit b then .ok ((digitValue a, digitValue b), cs)
    else .error .invalid
  | [a] => .error (if a.utf8Size = 1 then .tooShort else .invalid)
  | [] => .error .tooShort

/-- The sign of an offset, where U+2212 also counts as minus. -/
def readSign : Reader Bool
  | '+' :: cs => .ok (false, cs)
  | '-' :: cs => .ok (true, cs)
  | '\u2212' :: cs => .ok (true, cs)
  | _ :: _ => .error .invalid
  | [] => .error .tooShort

/-- A numeric offset `±hh:mm`, in seconds. -/
def readNumericOffset : Reader Int := fun cs => do
  let (negative, cs) ← readSign cs
  let ((h1, h2), cs) ← readTwoDigits cs
  let (_, cs) ← readMark [':'] cs
  let ((m1, m2), cs) ← readTwoDigits cs
  if 5 < m1 then throw .outOfRange
  let seconds : Int := ((10 * h1 + h2) * 3600 + (10 * m1 + m2) * 60 : Nat)
  return (if negative then -seconds else seconds, cs)

/-- An offset: `Z` for UTC, or a numeric one. -/
def readOffset : Reader Int
  | 'Z' :: cs => .ok (0, cs)
  | 'z' :: cs => .ok (0, cs)
  | cs => readNumericOffset cs

/-- A calendar date. -/
def readDate : Reader CivilDate := fun cs => do
  let (year, cs) ← readFixed 4 0 cs
  let (_, cs) ← readMark ['-'] cs
  let (month, cs) ← readFixed 2 0 cs
  let (_, cs) ← readMark ['-'] cs
  let (day, cs) ← readFixed 2 0 cs
  let date : CivilDate := ⟨year, month, day⟩
  if date.isValid then return (date, cs) else throw .outOfRange

/-- A time of day: seconds since midnight and nanoseconds. Second 60 is a leap second. -/
def readTime : Reader (Nat × Nat) := fun cs => do
  let (hour, cs) ← readFixed 2 0 cs
  let (_, cs) ← readMark [':'] cs
  let (minute, cs) ← readFixed 2 0 cs
  let (_, cs) ← readMark [':'] cs
  let (second, cs) ← readFixed 2 0 cs
  let (fraction, cs) ← readFraction cs
  if 23 < hour ∨ 59 < minute ∨ 60 < second then throw .outOfRange
  let start := hour * 3600 + minute * 60
  if second = 60 then return ((start + 59, 1000000000 + fraction), cs)
  else return ((start + second, fraction), cs)

/-- The length of the shortest text that holds a date and a time. -/
def leastSize : Nat := 19

/-- The length of a text in UTF-8. -/
def utf8Length (cs : List Char) : Nat :=
  cs.foldr (fun c n => c.utf8Size + n) 0

/-- The instant that a text denotes, with the offset it was written at. -/
def read (cs : List Char) : Except Fault ZonedInstant := do
  if utf8Length cs < leastSize then throw .tooShort
  let (date, cs) ← readDate cs
  let (_, cs) ← readMark ['T', 't', ' '] cs
  let ((second, nanos), cs) ← readTime cs
  let (offset, cs) ← readOffset cs
  if ¬ cs.isEmpty then throw .trailing
  if ¬ ZonedInstant.isOffset offset then throw .outOfRange
  return ⟨⟨date.toDays * 86400 + second - offset, nanos⟩, offset⟩

/-! ## Writing -/

/-- A year: four digits, or a sign and at least four. -/
def writeYear (year : Int) : List Char :=
  if 0 ≤ year ∧ year ≤ 9999 then Text.decimalPadded 4 year.toNat
  else (if year < 0 then '-' else '+') :: Text.decimalPadded 4 year.natAbs

/-- The fraction of a second, in as few groups of three digits as are exact. -/
def writeFraction (nanos : Nat) : List Char :=
  if nanos = 0 then []
  else if nanos % 1000000 = 0 then '.' :: Text.decimalPadded 3 (nanos / 1000000)
  else if nanos % 1000 = 0 then '.' :: Text.decimalPadded 6 (nanos / 1000)
  else '.' :: Text.decimalPadded 9 nanos

/-- Date and time as they read on a clock `seconds` after the epoch. -/
def writeDateTime (seconds : Int) (nanos : Nat) : List Char :=
  let date := CivilDate.ofDays (seconds / 86400)
  let time := (seconds % 86400).toNat
  let leap := if 1000000000 ≤ nanos then 1 else 0
  writeYear date.year ++ ['-'] ++ Text.decimalPadded 2 date.month ++ ['-'] ++
    Text.decimalPadded 2 date.day ++ ['T'] ++ Text.decimalPadded 2 (time / 3600) ++ [':'] ++
    Text.decimalPadded 2 (time / 60 % 60) ++ [':'] ++
    Text.decimalPadded 2 (time % 60 + leap) ++ writeFraction (nanos % 1000000000)

/-- An offset, with seconds only when it has some. -/
def writeOffset (offset : Int) : List Char :=
  let n := offset.natAbs
  [if offset < 0 then '-' else '+'] ++ Text.decimalPadded 2 (n / 3600) ++ [':'] ++
    Text.decimalPadded 2 (n / 60 % 60) ++
    (if n % 60 = 0 then [] else ':' :: Text.decimalPadded 2 (n % 60))

/-- An instant at its own offset. -/
def write (t : ZonedInstant) : String :=
  String.ofList
    (writeDateTime (t.instant.seconds + t.offset) t.instant.nanos ++ writeOffset t.offset)

/-- An instant in UTC, with the offset written as `Z`. -/
def writeZulu (t : Instant) : String :=
  String.ofList (writeDateTime t.seconds t.nanos ++ ['Z'])

end FrameSource.Rfc3339
