import FrameSource.Result.Cell

/-!
# Cursors

A cursor hands out the rows of a result set one at a time. It writes the cells of a row into scan
targets, one for each column, and may leave any of them as they were. `MemoryCursor` serves rows that
are already in memory.

The targets are the cursor's to write for the time of a fetch: it may fill one, set a cell in a shape
of its own, or put another target in its place, in whatever shape. Only how many there are it cannot
change. A fetch that never comes back is not a `Fetch`, and a cursor has its columns once and for all:
a decoding asks for them only once.
-/

namespace FrameSource

/-- A column of a result set: its name and the wire type of its cells. -/
structure Column where
  name : String
  wireType : String
deriving DecidableEq, Repr

/-- Why a row does not fit. -/
inductive RowFault where
  /-- A fetched row has another number of cells than there are targets. -/
  | width (cells targets : Nat)
  /-- A row of a document has another number of cells than there are columns. -/
  | documentWidth (row cells columns : Nat)
  /-- A cell of a document, given as written, is not of its wire type. -/
  | documentCell (row : Nat) (wireType written : String) (reason : Option Rfc3339.Fault)
deriving DecidableEq, Repr

/-- The wording of a row fault. -/
def RowFault.message : RowFault → String
  | .width cells targets =>
    "row has " ++ Text.natText cells ++ " cells, expected " ++ Text.natText targets
  | .documentWidth row cells columns =>
    "row " ++ Text.natText row ++ " has " ++ Text.natText cells ++ " cells, expected " ++
      Text.natText columns
  | .documentCell row wireType written reason =>
    "row " ++ Text.natText row ++ ": invalid " ++ wireType ++ " cell: " ++ written ++
      (match reason with
       | some fault => ": " ++ fault.message
       | none => "")

/-- Why a cursor could not fetch a row. -/
inductive CursorError where
  /-- The connection was closed after so many rows. -/
  | closed (rows : Nat)
  /-- The connection failed, for a reason in words. -/
  | io (reason : String)
  | invalidRow (fault : RowFault)
deriving DecidableEq, Repr

/-- The wording of a cursor error. -/
def CursorError.message : CursorError → String
  | .closed rows => "cursor closed: connection closed after " ++ Text.natText rows ++ " rows"
  | .io reason => "IO error: " ++ reason
  | .invalidRow fault => "invalid row: " ++ fault.message

/-- Where the cells of a column go, and in which shape. -/
structure ScanTarget where
  shape : ScanShape
  cell : Scanned
deriving DecidableEq, Repr

namespace ScanTarget

/-- A target that holds nothing yet. -/
def empty (shape : ScanShape) : ScanTarget := ⟨shape, .missing⟩

/-- The target after a cell, or database null, was put into it, in the target's shape. -/
def fill (t : ScanTarget) (cell : Option Cell) : ScanTarget :=
  { t with cell := .shaped t.shape cell }

/-- The target after a cell was put into it that already has a shape, be it another than the
target's. -/
def set (t : ScanTarget) (cell : Scanned) : ScanTarget :=
  { t with cell }

/-- A target that is used again: its shape stays, what it held is forgotten. -/
def reset (t : ScanTarget) : ScanTarget := .empty t.shape

/-- Targets after some of them were replaced; where nothing is written, and beyond the writes, a
target stays as it was. -/
def write : List ScanTarget → List (Option ScanTarget) → List ScanTarget
  | t :: ts, w :: ws => w.getD t :: write ts ws
  | ts, [] => ts
  | [], _ => []

/-- The writes that set cells in targets, where there is a cell for one, and do nothing else. -/
def setEach (targets : List ScanTarget) (cells : List (Option Scanned)) :
    List (Option ScanTarget) :=
  List.zipWith (fun t cell => cell.map t.set) targets cells

@[simp] theorem write_nil (targets : List ScanTarget) : write targets [] = targets := by
  cases targets <;> rfl

/-- Whatever is written, there are as many targets afterwards. -/
theorem length_write (ts : List ScanTarget) (ws : List (Option ScanTarget)) :
    (write ts ws).length = ts.length := by
  induction ts generalizing ws with
  | nil => cases ws <;> rfl
  | cons t ts ih => cases ws <;> simp [write, ih]

/-- Where the filled targets are written, every target is filled. -/
theorem write_fill {targets : List ScanTarget} {cells : List (Option Cell)}
    (h : cells.length = targets.length) :
    write targets (List.zipWith (fun t cell => some (t.fill cell)) targets cells) =
      List.zipWith fill targets cells := by
  induction targets generalizing cells with
  | nil => rfl
  | cons t targets ih =>
    cases cells with
    | nil => cases h
    | cons cell cells =>
      simp only [List.zipWith_cons_cons, write, ih (Nat.succ.inj h), Option.getD_some]

/-- Where a target is only ever replaced by one of its own shape, the shapes stay as they are. -/
theorem map_shape_write_zipWith {α : Type} {f : ScanTarget → α → Option ScanTarget}
    (h : ∀ t a w, f t a = some w → w.shape = t.shape) (targets : List ScanTarget) (as : List α) :
    (write targets (List.zipWith f targets as)).map shape = targets.map shape := by
  induction targets generalizing as with
  | nil => rfl
  | cons t targets ih =>
    cases as with
    | nil => rfl
    | cons a as =>
      have hfirst : ((f t a).getD t).shape = t.shape := by
        cases hw : f t a with
        | none => rfl
        | some w => exact h t a w hw
      rw [List.zipWith_cons_cons, write, List.map_cons, List.map_cons, hfirst, ih]

theorem map_shape_write_setEach (targets : List ScanTarget) (cells : List (Option Scanned)) :
    (write targets (setEach targets cells)).map shape = targets.map shape := by
  refine map_shape_write_zipWith ?_ targets cells
  intro t cell w hw
  obtain ⟨_, _, rfl⟩ := Option.map_eq_some_iff.mp hw
  rfl

end ScanTarget

/-- What one fetch did: the targets that it put in the place of those it was given, none where it left
one alone; whether there was a row; and the state of the cursor afterwards. -/
structure Fetch (σ : Type) where
  writes : List (Option ScanTarget)
  answer : Except CursorError Bool
  state : σ

/-- A cursor over states of type `σ`. -/
structure Cursor (σ : Type) where
  columns : List Column
  fetch : σ → List ScanTarget → Fetch σ

/-- The cursor only writes cells: after a fetch, targets have the shapes that they had before. -/
def Cursor.KeepsShapes {σ : Type} (cursor : Cursor σ) : Prop :=
  ∀ state targets, (ScanTarget.write targets (cursor.fetch state targets).writes).map
    ScanTarget.shape = targets.map ScanTarget.shape

/-- Rows in memory. A cursor may be set to fail once it has delivered a number of rows. -/
structure MemoryCursor where
  columns : List Column
  rows : List (List (Option Cell))
  failAfter : Option Nat
  fetched : Nat
deriving DecidableEq, Repr

namespace MemoryCursor

/-- A cursor that will deliver some rows. -/
def ofRows (columns : List Column) (rows : List (List (Option Cell))) : MemoryCursor :=
  ⟨columns, rows, none, 0⟩

/-- How many rows are left. -/
def remaining (c : MemoryCursor) : Nat := c.rows.length

/-- The cursor with one more row at the end. -/
def push (c : MemoryCursor) (row : List (Option Cell)) : MemoryCursor :=
  { c with rows := c.rows ++ [row] }

/-- The cursor set to fail once it has delivered `rows` rows. -/
def failingAfter (c : MemoryCursor) (rows : Nat) : MemoryCursor :=
  { c with failAfter := some rows }

/-- One fetch. A row of the wrong width is taken off without being delivered. -/
def next (c : MemoryCursor) (targets : List ScanTarget) : Fetch MemoryCursor :=
  if c.failAfter = some c.fetched then ⟨[], .error (.closed c.fetched), c⟩
  else
    match c.rows with
    | [] => ⟨[], .ok false, c⟩
    | row :: rows =>
      if row.length = targets.length then
        ⟨List.zipWith (fun t cell => some (t.fill cell)) targets row, .ok true,
          { c with rows := rows, fetched := c.fetched + 1 }⟩
      else ⟨[], .error (.invalidRow (.width row.length targets.length)), { c with rows := rows }⟩

/-- The cursor over its own states. -/
def cursor (c : MemoryCursor) : Cursor MemoryCursor := ⟨c.columns, next⟩

/-- A delivered row is one row less. -/
theorem remaining_of_next {c : MemoryCursor} {targets : List ScanTarget}
    (h : (c.next targets).answer = .ok true) :
    (c.next targets).state.remaining + 1 = c.remaining := by
  revert h
  unfold next remaining
  split
  · intro h; cases h
  · split
    · intro h; cases h
    · split
      · intro _; simp_all
      · intro h; cases h

end MemoryCursor

end FrameSource
