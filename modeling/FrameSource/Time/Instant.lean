import FrameSource.Time.Calendar

/-!
# Instants

A point in time as whole seconds since 1970-01-01T00:00:00Z and nanoseconds inside that second.
During a leap second the nanoseconds go on beyond 10⁹, which happens only in second 59 of a minute.
A zoned instant adds the offset from UTC at which it is to be shown.
-/

namespace FrameSource

/-- A point in time. -/
structure Instant where
  seconds : Int
  nanos : Nat
deriving DecidableEq, Repr

namespace Instant

/-- The first second that can be represented: the start of year -262143. -/
def firstSecond : Int := -8334601228800

/-- The last second that can be represented: the end of year 262142. -/
def lastSecond : Int := 8210266876799

/-- Whether seconds and nanoseconds name an instant: in range, and with more than 10⁹ nanoseconds
only in a leap second. -/
def isValid (t : Instant) : Bool :=
  firstSecond ≤ t.seconds && t.seconds ≤ lastSecond &&
    (t.nanos < 1000000000 || (t.nanos < 2000000000 && t.seconds % 60 = 59))

/-- The instant of given seconds and nanoseconds, if there is one. -/
def make? (seconds : Int) (nanos : Nat) : Option Instant :=
  let t : Instant := ⟨seconds, nanos⟩
  if t.isValid then some t else none

/-- Whole microseconds since the epoch, rounded down; a leap second counts on from second 59. -/
def micros (t : Instant) : Int :=
  t.seconds * 1000000 + (t.nanos / 1000 : Nat)

/-- The instant a number of microseconds after the epoch, if it is in range. -/
def ofMicros? (micros : Int) : Option Instant :=
  make? (micros / 1000000) ((micros % 1000000).toNat * 1000)

end Instant

/-- An instant together with the offset from UTC, in seconds to the east, at which it is shown. -/
structure ZonedInstant where
  instant : Instant
  offset : Int
deriving DecidableEq, Repr

namespace ZonedInstant

/-- Offsets are less than a day. -/
def isOffset (offset : Int) : Bool :=
  -86400 < offset && offset < 86400

end ZonedInstant

/-- An instant shown in UTC. -/
def Instant.utc (t : Instant) : ZonedInstant := ⟨t, 0⟩

end FrameSource
