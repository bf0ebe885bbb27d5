import FrameSource.Text.Blank
import FrameSource.Text.Decimal
import FrameSource.Time.Error

/-!
# Sampling intervals

A span of time, kept exactly in nanoseconds. `Interval.bucket` writes it as the bucket size of a
`SAMPLE BY` clause and `Interval.parse` reads a count with a unit; a bucket size always reads back.
-/

namespace FrameSource

/-- A span of time. -/
structure Interval where
  nanos : Int
deriving DecidableEq, Repr

namespace Interval

/-- The empty span. -/
def zero : Interval := ⟨0⟩

/-- A span of whole milliseconds. -/
def ofMillis (n : Int) : Interval := ⟨n * 1000000⟩

/-- A span of seconds and nanoseconds. -/
def ofSeconds (seconds : Int) (nanos : Nat) : Interval := ⟨seconds * 1000000000 + nanos⟩

/-- Spans reach as far as a signed 64-bit number of milliseconds, in either direction. -/
def inRange (d : Interval) : Bool :=
  d.nanos.natAbs ≤ 9223372036854775807 * 1000000

/-- Whole milliseconds in a span, rounded toward zero. -/
def millis (d : Interval) : Int :=
  d.nanos.tdiv 1000000

/-! ## Bucket sizes -/

/-- How many whole units of the given nanoseconds a span holds; none if it is negative. -/
def count (d : Interval) (unit : Nat) : Nat :=
  d.nanos.toNat / unit

/-- Nanoseconds in an hour. -/
def hour : Nat := 3600 * 1000000000

/-- The span as a bucket size: whole days if it is exactly that, else whole hours, whole seconds, or
milliseconds, of which there is at least one. What is left over is dropped. -/
def bucket (d : Interval) : List Char :=
  let hours := d.count hour
  let seconds := d.count 1000000000
  if 0 < hours then
    if 24 ≤ hours ∧ d.nanos = hours * hour ∧ hours % 24 = 0 then
      Text.decimal (hours / 24) ++ ['d']
    else Text.decimal hours ++ ['h']
  else if 0 < seconds then Text.decimal seconds ++ ['s']
  else Text.decimal (max (d.count 1000000) 1) ++ ['T']

/-- The bucket size as a string. -/
def sampleBy (d : Interval) : String :=
  String.ofList d.bucket

/-! ## Reading -/

/-- The milliseconds of a unit of time. -/
def unitMillis? (cs : List Char) : Option Nat :=
  if cs = ['m', 's'] ∨ cs = ['T'] then some 1
  else if cs = ['s'] then some 1000
  else if cs = ['m'] then some 60000
  else if cs = ['h'] then some 3600000
  else if cs = ['d'] then some 86400000
  else none

/-- A count and a unit with nothing between or around them. Count and result fit a signed 64-bit
number of milliseconds. -/
def readExact? (cs : List Char) : Option Interval := do
  let count ← Text.readNat? (cs.takeWhile Text.isDigit)
  let unit ← unitMillis? (cs.dropWhile Text.isDigit)
  if Text.inInt64 count ∧ Text.inInt64 (count * unit) then some (ofMillis (count * unit)) else none

/-- The interval that a text denotes; blanks around it do not matter. -/
def parse (input : String) : Except TimeError Interval :=
  match readExact? (Text.trim input.toList) with
  | some d => .ok d
  | none => .error (.invalidInterval input)

end Interval

end FrameSource
