import FrameSource.Time.Error
import FrameSource.Time.Rfc3339

/-!
# Time ranges

The two instants between which a query looks. Offsets are forgotten when a range is built, so a range
does not depend on the zone in which its boundaries were written.
-/

namespace FrameSource

/-- The range of a query; both boundaries belong to it. -/
structure TimeRange where
  start : Instant
  stop : Instant
deriving DecidableEq, Repr

namespace TimeRange

/-- The range between two instants shown in any zones. -/
def ofZoned (start stop : ZonedInstant) : TimeRange :=
  ⟨start.instant, stop.instant⟩

/-- The instant that a boundary text denotes; blanks around it do not matter. -/
def parseBoundary (input : String) : Except TimeError ZonedInstant :=
  match Rfc3339.read (Text.trim input.toList) with
  | .ok t => .ok t
  | .error fault => .error (.invalidTimestamp input fault.message)

/-- The range between two RFC 3339 texts. The first faulty one is reported. -/
def parse (start stop : String) : Except TimeError TimeRange := do
  let start ← parseBoundary start
  let stop ← parseBoundary stop
  return ofZoned start stop

/-- The start in whole microseconds since the epoch. -/
def startMicros (r : TimeRange) : Int := r.start.micros

/-- The end in whole microseconds since the epoch. -/
def stopMicros (r : TimeRange) : Int := r.stop.micros

end TimeRange

end FrameSource
