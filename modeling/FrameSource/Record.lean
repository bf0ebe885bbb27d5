import FrameSource.Text.Decimal

/-!
# Records

Settings are read from more than one format. A `RecordSource` is what a format has to offer for that:
the fields of a record, and the simple values in them. Fields that are absent take their defaults.
-/

namespace FrameSource

/-- How records are read from the values `τ` of a format. -/
structure RecordSource (τ : Type) where
  /-- The fields of a record, each under one of several names, in the order of the names; none if the
  value is no such record. -/
  fields? : List (List String) → τ → Option (List (Option τ))
  /-- A string. -/
  string? : τ → Option String
  /-- An integer. -/
  integer? : τ → Option Int
  /-- The word in a value that is one of several words. -/
  word? : τ → Option String
  /-- Whether a value stands for an absent one. -/
  isNull : τ → Bool

namespace RecordSource

variable {τ : Type} (source : RecordSource τ)

/-- An integer that fits a signed 64-bit word. -/
def int64? (t : τ) : Option Int64 := do
  let n ← source.integer? t
  if Text.inInt64 n then some (Int64.ofInt n) else none

/-- An integer that fits an unsigned 64-bit word. -/
def uint64? (t : τ) : Option UInt64 := do
  let n ← source.integer? t
  if 0 ≤ n ∧ n < UInt64.size then some (UInt64.ofNat n.toNat) else none

/-- A value that may be absent. -/
def optional? {α : Type} (read : τ → Option α) (t : τ) : Option (Option α) :=
  if source.isNull t then some none else (read t).map some

/-- A word that means something. -/
def meaning? {α : Type} (read : String → Option α) (t : τ) : Option α := do
  read (← source.word? t)

/-- A field that takes a default where it is absent. -/
def orDefault {α : Type} (default : α) (read : τ → Option α) : Option τ → Option α
  | none => some default
  | some t => read t

end RecordSource

end FrameSource
