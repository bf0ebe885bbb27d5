import FrameSource.Catalog
import FrameSource.Time.Interval
import FrameSource.Time.Range

/-!
# Expanders

An expander turns one invocation in a query template into literal query text, from the context of
the query and the invocation's arguments. The standard expanders write the query's time range and
sampling interval; instants become `cast(n as timestamp)` literals, `n` being whole microseconds
since the epoch.
-/

namespace FrameSource

/-- What an expander may read: the time range of the query and the interval to sample it by. -/
structure QueryContext where
  range : TimeRange
  interval : Interval
deriving DecidableEq, Repr

/-- Why a template could not be expanded, or an expander not be registered. -/
inductive ExpansionError where
  | badArgumentCount (name : String) (expected received : Nat)
  | unterminatedArguments (name : String)
  | duplicateName (name : String)
  | failed (name reason : String)
deriving DecidableEq, Repr

/-- The wording of an expansion error. -/
def ExpansionError.message : ExpansionError → String
  | .badArgumentCount name expected received =>
    "unexpected number of arguments for macro '" ++ name ++ "': expected " ++
      Text.natText expected ++ " argument, received " ++ Text.natText received
  | .unterminatedArguments name => "unterminated argument list for macro '" ++ name ++ "'"
  | .duplicateName name => "macro '" ++ name ++ "' is already registered"
  | .failed name reason => "macro '" ++ name ++ "' failed: " ++ reason

/-- Produces the text that replaces an invocation with the given arguments. -/
abbrev Expander := QueryContext → List String → Except ExpansionError String

namespace Expander

/-- A timestamp literal. -/
def timestampLiteral (micros : Int) : String :=
  "cast(" ++ Text.intText micros ++ " as timestamp)"

/-- The start of the time range. Arguments are ignored. -/
def fromTime : Expander := fun ctx _ =>
  .ok (timestampLiteral ctx.range.startMicros)

/-- The end of the time range. Arguments are ignored. -/
def toTime : Expander := fun ctx _ =>
  .ok (timestampLiteral ctx.range.stopMicros)

/-- A predicate that holds when the column named by the only argument lies in the time range. -/
def timeFilter : Expander := fun ctx args =>
  match args with
  | [column] =>
    .ok (column ++ " >= " ++ timestampLiteral ctx.range.startMicros ++ " AND " ++
      column ++ " <= " ++ timestampLiteral ctx.range.stopMicros)
  | _ => .error (.badArgumentCount "timeFilter" 1 args.length)

/-- The sampling interval as a bucket size. Arguments are ignored. -/
def sampleByInterval : Expander := fun ctx _ =>
  .ok ctx.interval.sampleBy

/-- The standard expanders. -/
def standard : List (String × Expander) :=
  [("fromTime", fromTime), ("sampleByInterval", sampleByInterval), ("timeFilter", timeFilter),
   ("toTime", toTime)]

end Expander

end FrameSource
