import FrameSource.Result.Frame

/-!
# Decoding a result set

The columns of a cursor are matched with converters first; then its rows are fetched one at a time
into one list of targets, which is made for the columns and reset before each fetch, and converted
from left to right. The first error ends the decoding. A cursor need not ever end, so `decodeThrough`
and `decodeWithin` allow it a number of fetches; a memory cursor ends by itself, and `decodeMemory`
decodes all of it.
-/

namespace FrameSource

/-- What becomes of a column whose wire type no converter is for. -/
inductive UnknownColumnPolicy where
  /-- The whole decoding fails. -/
  | fail
  /-- The column is left out. -/
  | skip
deriving DecidableEq, Repr

namespace UnknownColumnPolicy

/-- The word for a policy. -/
def word : UnknownColumnPolicy → String
  | .fail => "fail"
  | .skip => "skip"

/-- The policy that a word stands for. -/
def ofWord? (s : String) : Option UnknownColumnPolicy :=
  if s = "fail" then some .fail else if s = "skip" then some .skip else none

end UnknownColumnPolicy

/-- A column with its converter; a column without one is skipped. -/
structure Slot where
  column : Column
  converter : Option Converter

namespace Slot

/-- The shape of the column's target. A skipped column needs a target too, so that the others keep
their positions. -/
def shape (s : Slot) : ScanShape :=
  match s.converter with
  | some c => c.signature.shape
  | none => .direct

end Slot

namespace Decode

/-- The columns with their converters. Under the policy `fail` the first column without one is an
error. -/
def plan (registry : ConverterRegistry) (policy : UnknownColumnPolicy) :
    List Column → Except DecodeError (List Slot)
  | [] => .ok []
  | column :: columns =>
    match registry.find? column.wireType, policy with
    | none, .fail => .error (.unknownType column.name column.wireType)
    | converter, _ => do
      let slots ← plan registry policy columns
      return ⟨column, converter⟩ :: slots

/-- Fresh targets for the columns. -/
def freshTargets (slots : List Slot) : List ScanTarget :=
  slots.map fun s => .empty s.shape

/-- The values of a row, of the columns that are kept. -/
def convertRow (row : Nat) : List Slot → List ScanTarget → Except DecodeError (List Value)
  | slot :: slots, target :: targets =>
    match slot.converter with
    | none => convertRow row slots targets
    | some converter =>
      match converter.decode target.cell with
      | .error cause => .error (.convert slot.column.name row cause)
      | .ok value => do
        let values ← convertRow row slots targets
        return value :: values
  | _, _ => .ok []

/-- The rows from number `row` on, and the state in which the cursor is left. It is one list of targets
that all rows are fetched into: before each fetch they are reset, so that they keep their shapes and
forget their cells. None if the cursor has not ended within `fuel` fetches. -/
def collect {σ : Type} (cursor : Cursor σ) (slots : List Slot) :
    (fuel : Nat) → List ScanTarget → σ → (row : Nat) →
      Option (Except DecodeError (List (List Value)) × σ)
  | 0, _, _, _ => none
  | fuel + 1, targets, state, row =>
    let targets := targets.map ScanTarget.reset
    let fetch := cursor.fetch state targets
    let targets := ScanTarget.write targets fetch.writes
    match fetch.answer with
    | .error cause => some (.error (.cursor cause), fetch.state)
    | .ok false => some (.ok [], fetch.state)
    | .ok true =>
      match convertRow row slots targets with
      | .error e => some (.error e, fetch.state)
      | .ok values => (collect cursor slots fuel targets fetch.state (row + 1)).map fun r =>
          (r.1.map (values :: ·), r.2)

/-- Rows of `count` values turned into `count` columns. -/
def transpose (count : Nat) (rows : List (List Value)) : List (List Value) :=
  rows.foldr (List.zipWith List.cons) (List.replicate count [])

/-- The columns of a frame for the slots that are kept, given the values of each. -/
def frameColumns : List Slot → List (List Value) → List FrameColumn
  | slot :: slots, columns =>
    match slot.converter, columns with
    | none, columns => frameColumns slots columns
    | some c, values :: columns =>
      ⟨slot.column.name, slot.column.wireType, c.signature.fieldType, values⟩ ::
        frameColumns slots columns
    | some _, [] => []
  | [], _ => []

/-- The frame of the rows that were collected. -/
def assemble (slots : List Slot) (rows : List (List Value)) : Except DecodeError Frame :=
  let kept := (slots.filter (·.converter.isSome)).length
  Frame.build (frameColumns slots (transpose kept rows)) rows.length

end Decode

/-- The frame of all rows of a cursor in a given state, and the state in which it is left. None if the
cursor has not ended within `fuel` fetches. -/
def decodeThrough {σ : Type} (fuel : Nat) (cursor : Cursor σ) (state : σ)
    (registry : ConverterRegistry) (policy : UnknownColumnPolicy) :
    Option (Except DecodeError Frame × σ) :=
  match Decode.plan registry policy cursor.columns with
  | .error e => some (.error e, state)
  | .ok slots =>
    (Decode.collect cursor slots fuel (Decode.freshTargets slots) state 0).map fun r =>
      (r.1 >>= Decode.assemble slots, r.2)

/-- The frame of all rows of a cursor in a given state. -/
def decodeWithin {σ : Type} (fuel : Nat) (cursor : Cursor σ) (state : σ)
    (registry : ConverterRegistry) (policy : UnknownColumnPolicy) :
    Option (Except DecodeError Frame) :=
  (decodeThrough fuel cursor state registry policy).map Prod.fst

/-- A memory cursor ends after as many fetches as it has rows, and one more. -/
theorem Decode.isSome_collect_memory {c : MemoryCursor} {columns : List Column}
    {slots : List Slot} {targets : List ScanTarget} {fuel row : Nat} (h : c.remaining < fuel) :
    (collect ⟨columns, MemoryCursor.next⟩ slots fuel targets c row).isSome = true := by
  induction fuel generalizing c targets row with
  | zero => omega
  | succ fuel ih =>
    unfold collect
    simp only
    split
    · rfl
    · rfl
    · rename_i ha
      split
      · rfl
      · have := MemoryCursor.remaining_of_next ha
        rw [Option.isSome_map]
        exact ih (by omega)

theorem isSome_decodeWithin_memory (c : MemoryCursor) (registry : ConverterRegistry)
    (policy : UnknownColumnPolicy) :
    (decodeWithin (c.remaining + 1) c.cursor c registry policy).isSome = true := by
  rw [decodeWithin, Option.isSome_map, decodeThrough]
  split
  · rfl
  · rw [Option.isSome_map]
    exact Decode.isSome_collect_memory (Nat.lt_succ_self _)

/-- The frame of all rows of a memory cursor. -/
def decodeMemory (c : MemoryCursor) (registry : ConverterRegistry)
    (policy : UnknownColumnPolicy) : Except DecodeError Frame :=
  (decodeWithin (c.remaining + 1) c.cursor c registry policy).get
    (isSome_decodeWithin_memory c registry policy)

end FrameSource
