import FrameSource.Result.Cursor
import Mathlib.Data.List.Forall2

/-!
# Rows in memory as a queue

A memory cursor may be pushed to and fetched from in any order, with any targets. A row is taken off
before its width is looked at, and counts as delivered only after the targets are filled; so what
becomes of the rows is told by what every single call does (`served`), and a run of calls adds it up.

**Every row is accounted for** (`ledger_run`). Rows leave in the order in which they came, each by
one fetch, which hands it over whole or reports its width; nothing else touches the targets. The
limit of a cursor that is set to fail is met exactly, and a cursor that is closed stays as it is.

Calls come one after the other here. A cursor is owned by who calls it, so calls at the same time do
not arise.
-/

namespace FrameSource.MemoryCursor

/-- A use of a cursor. The targets of a fetch may hold anything before it. -/
inductive Call where
  | push (row : List (Option Cell))
  | fetch (targets : List ScanTarget)

/-- A fetch as its caller sees it: the targets before, the answer, and the targets after. -/
structure Visit where
  targets : List ScanTarget
  answer : Except CursorError Bool
  after : List ScanTarget

def visit (c : MemoryCursor) (targets : List ScanTarget) : Visit :=
  ⟨targets, (c.next targets).answer, ScanTarget.write targets (c.next targets).writes⟩

namespace Visit

def isDelivery (v : Visit) : Bool :=
  match v.answer with
  | .ok true => true
  | _ => false

def isReport (v : Visit) : Bool :=
  match v.answer with
  | .error (.invalidRow _) => true
  | _ => false

/-- The visit takes a row off: it fills every target from the row's cell for it if the row is as
wide as the targets, and otherwise it reports the width and fills none. -/
def Takes (v : Visit) (row : List (Option Cell)) : Prop :=
  if row.length = v.targets.length then
    v.answer = .ok true ∧ v.after = List.zipWith ScanTarget.fill v.targets row
  else
    v.answer = .error (.invalidRow (.width row.length v.targets.length)) ∧ v.after = v.targets

end Visit

/-! ## One fetch -/

/-- What a fetch does: it finds the connection closed, finds no row, hands the front row over, or
reports it. -/
inductive Served (c : MemoryCursor) (targets : List ScanTarget) : Prop
  | closed (limit : c.failAfter = some c.fetched)
      (seen : c.visit targets = ⟨targets, .error (.closed c.fetched), targets⟩)
      (state : (c.next targets).state = c)
  | exhausted (limit : c.failAfter ≠ some c.fetched) (rows : c.rows = [])
      (seen : c.visit targets = ⟨targets, .ok false, targets⟩)
      (state : (c.next targets).state = c)
  | delivered {row : List (Option Cell)} {rest : List (List (Option Cell))}
      (limit : c.failAfter ≠ some c.fetched) (rows : c.rows = row :: rest)
      (width : row.length = targets.length)
      (seen : c.visit targets = ⟨targets, .ok true, List.zipWith ScanTarget.fill targets row⟩)
      (state : (c.next targets).state = { c with rows := rest, fetched := c.fetched + 1 })
  | reported {row : List (Option Cell)} {rest : List (List (Option Cell))}
      (limit : c.failAfter ≠ some c.fetched) (rows : c.rows = row :: rest)
      (width : row.length ≠ targets.length)
      (seen : c.visit targets =
        ⟨targets, .error (.invalidRow (.width row.length targets.length)), targets⟩)
      (state : (c.next targets).state = { c with rows := rest })

/-- What a fetch does is one of these four things, in every state and for all targets. -/
theorem served (c : MemoryCursor) (targets : List ScanTarget) : Served c targets := by
  by_cases hlimit : c.failAfter = some c.fetched
  · refine .closed hlimit ?_ ?_
    · simp only [visit, next, if_pos hlimit, ScanTarget.write_nil]
    · simp only [next, if_pos hlimit]
  · cases hrows : c.rows with
    | nil =>
      refine .exhausted hlimit hrows ?_ ?_
      · simp only [visit, next, if_neg hlimit, hrows, ScanTarget.write_nil]
      · simp only [next, if_neg hlimit, hrows]
    | cons row rest =>
      by_cases hwidth : row.length = targets.length
      · refine .delivered hlimit hrows hwidth ?_ ?_
        · simp only [visit, next, if_neg hlimit, hrows, if_pos hwidth, ScanTarget.write_fill hwidth]
        · simp only [next, if_neg hlimit, hrows, if_pos hwidth]
      · refine .reported hlimit hrows hwidth ?_ ?_
        · simp only [visit, next, if_neg hlimit, hrows, if_neg hwidth, ScanTarget.write_nil]
        · simp only [next, if_neg hlimit, hrows, if_neg hwidth]

/-- A memory cursor fills all targets or none, and so leaves every one of them in its shape. -/
theorem keepsShapes (columns : List Column) : Cursor.KeepsShapes ⟨columns, next⟩ := by
  intro c targets
  show (c.visit targets).after.map ScanTarget.shape = targets.map ScanTarget.shape
  cases served c targets with
  | closed _ hseen _ => rw [hseen]
  | exhausted _ _ hseen _ => rw [hseen]
  | reported _ _ _ hseen _ => rw [hseen]
  | @delivered row _ _ _ hwidth hseen _ =>
    rw [hseen, ← ScanTarget.write_fill hwidth]
    refine ScanTarget.map_shape_write_zipWith ?_ targets row
    rintro t cell _ ⟨⟩
    rfl

/-! ## Runs -/

def step (c : MemoryCursor) : Call → MemoryCursor
  | .push row => c.push row
  | .fetch targets => (c.next targets).state

/-- The cursor after some calls. -/
def run (c : MemoryCursor) : List Call → MemoryCursor
  | [] => c
  | call :: calls => (c.step call).run calls

/-- What is seen of the fetches among some calls. -/
def visits (c : MemoryCursor) : List Call → List Visit
  | [] => []
  | .push row :: calls => visits (c.push row) calls
  | .fetch targets :: calls => c.visit targets :: visits (c.next targets).state calls

/-- The rows that some calls push. -/
def pushed : List Call → List (List (Option Cell))
  | [] => []
  | .push row :: calls => row :: pushed calls
  | .fetch _ :: calls => pushed calls

/-- How many rows are handed over while some calls are made. -/
def deliveries (c : MemoryCursor) (calls : List Call) : Nat :=
  (c.visits calls).countP Visit.isDelivery

/-- How many rows are reported while some calls are made. -/
def reports (c : MemoryCursor) (calls : List Call) : Nat :=
  (c.visits calls).countP Visit.isReport

variable {c : MemoryCursor}

theorem visits_fetch (targets : List ScanTarget) (calls : List Call) :
    c.visits (.fetch targets :: calls) =
      [c.visit targets] ++ (c.next targets).state.visits calls := rfl

theorem failAfter_next (targets : List ScanTarget) :
    (c.next targets).state.failAfter = c.failAfter := by
  cases served c targets with
  | closed _ _ hstate => rw [hstate]
  | exhausted _ _ _ hstate => rw [hstate]
  | delivered _ _ _ _ hstate => rw [hstate]
  | reported _ _ _ _ hstate => rw [hstate]

theorem failAfter_run (calls : List Call) : (c.run calls).failAfter = c.failAfter := by
  induction calls generalizing c with
  | nil => rfl
  | cons call calls ih =>
    cases call with
    | push row => exact ih
    | fetch targets => exact ih.trans (failAfter_next targets)

/-- The count of delivered rows goes up exactly with a delivery, not with every fetch. -/
theorem fetched_next (targets : List ScanTarget) :
    (c.next targets).state.fetched = c.fetched + [c.visit targets].countP Visit.isDelivery := by
  cases served c targets with
  | closed _ hseen hstate => rw [hseen, hstate]; rfl
  | exhausted _ _ hseen hstate => rw [hseen, hstate]; rfl
  | delivered _ _ _ hseen hstate => rw [hseen, hstate]; rfl
  | reported _ _ _ hseen hstate => rw [hseen, hstate]; rfl

/-- A cursor counts what it hands over, and nothing else. -/
theorem fetched_run (calls : List Call) :
    (c.run calls).fetched = c.fetched + c.deliveries calls := by
  induction calls generalizing c with
  | nil => rfl
  | cons call calls ih =>
    cases call with
    | push row => exact ih
    | fetch targets =>
      calc ((c.next targets).state.run calls).fetched
          = (c.next targets).state.fetched + (c.next targets).state.deliveries calls := ih
        _ = c.fetched + c.deliveries (.fetch targets :: calls) := by
          rw [fetched_next, deliveries, deliveries, visits_fetch, List.countP_append, Nat.add_assoc]

/-- The limit is never passed. A cursor that has reached it reports, and delivers no more. -/
theorem fetched_le_next {n : Nat} (hlimit : c.failAfter = some n) (hle : c.fetched ≤ n)
    (targets : List ScanTarget) : (c.next targets).state.fetched ≤ n := by
  cases served c targets with
  | closed _ _ hstate => rwa [hstate]
  | exhausted _ _ _ hstate => rwa [hstate]
  | reported _ _ _ _ hstate => rwa [hstate]
  | delivered hopen _ _ _ hstate =>
    have hne : c.fetched ≠ n := fun heq => hopen (heq ▸ hlimit)
    rw [hstate]
    exact Nat.lt_of_le_of_ne hle hne

/-- A cursor that is set to fail never hands over more than it is allowed to. -/
theorem fetched_le_run {n : Nat} (hlimit : c.failAfter = some n) (hle : c.fetched ≤ n)
    (calls : List Call) : (c.run calls).fetched ≤ n := by
  induction calls generalizing c with
  | nil => exact hle
  | cons call calls ih =>
    cases call with
    | push row => exact ih (c := c.push row) hlimit hle
    | fetch targets =>
      exact ih ((failAfter_next targets).trans hlimit) (fetched_le_next hlimit hle targets)

/-! ## What becomes of the rows -/

/-- The visits by which a row leaves. -/
def takings (visits : List Visit) : List Visit :=
  visits.filter fun v => v.isDelivery || v.isReport

/-- One fetch takes the front row off, or no row. -/
theorem takings_next (targets : List ScanTarget) :
    ∃ left, c.rows = left ++ (c.next targets).state.rows ∧
      List.Forall₂ Visit.Takes (takings [c.visit targets]) left ∧
      left.length = [c.visit targets].countP Visit.isDelivery +
        [c.visit targets].countP Visit.isReport := by
  cases served c targets with
  | closed _ hseen hstate =>
    rw [hseen, hstate]
    exact ⟨[], rfl, .nil, rfl⟩
  | exhausted _ _ hseen hstate =>
    rw [hseen, hstate]
    exact ⟨[], rfl, .nil, rfl⟩
  | @delivered row _ _ hrows hwidth hseen hstate =>
    rw [hseen, hstate]
    refine ⟨[row], hrows, .cons ?_ .nil, rfl⟩
    rw [Visit.Takes, if_pos hwidth]
    exact ⟨rfl, rfl⟩
  | @reported row _ _ hrows hwidth hseen hstate =>
    rw [hseen, hstate]
    refine ⟨[row], hrows, .cons ?_ .nil, rfl⟩
    rw [Visit.Takes, if_neg hwidth]
    exact ⟨rfl, rfl⟩

/-- The rows that were there and those that were pushed are the ones that left, in this order, and
the ones that are still there. -/
theorem takings_run (calls : List Call) :
    ∃ left, c.rows ++ pushed calls = left ++ (c.run calls).rows ∧
      List.Forall₂ Visit.Takes (takings (c.visits calls)) left ∧
      left.length = c.deliveries calls + c.reports calls := by
  -- Along the calls, from any state: a push adds at the back, a fetch takes at most one in front.
  induction calls generalizing c with
  | nil => exact ⟨[], List.append_nil _, .nil, rfl⟩
  | cons call calls ih =>
    cases call with
    | push row =>
      obtain ⟨left, hrows, htakes, hlength⟩ := ih (c := c.push row)
      refine ⟨left, ?_, htakes, hlength⟩
      calc c.rows ++ row :: pushed calls = (c.push row).rows ++ pushed calls := by
            rw [push, List.append_assoc]
            rfl
        _ = left ++ ((c.push row).run calls).rows := hrows
    | fetch targets =>
      obtain ⟨first, hfirst, htakes, hlength⟩ := takings_next (c := c) targets
      obtain ⟨left, hrows, htakes', hlength'⟩ := ih (c := (c.next targets).state)
      refine ⟨first ++ left, ?_, ?_, ?_⟩
      · calc c.rows ++ pushed calls
            = first ++ ((c.next targets).state.rows ++ pushed calls) := by
              rw [← List.append_assoc, ← hfirst]
          _ = first ++ left ++ ((c.next targets).state.run calls).rows := by
              rw [hrows, List.append_assoc]
      · rw [takings, visits_fetch, List.filter_append]
        exact List.rel_append htakes htakes'
      · rw [deliveries, reports] at hlength' ⊢
        rw [visits_fetch, List.countP_append, List.countP_append, List.length_append]
        omega

/-! ## Targets and the limit -/

theorem after_visit (targets : List ScanTarget) (h : (c.visit targets).answer ≠ .ok true) :
    (c.visit targets).after = targets := by
  cases served c targets with
  | closed _ hseen _ => rw [hseen]
  | exhausted _ _ hseen _ => rw [hseen]
  | delivered _ _ _ hseen _ =>
    rw [hseen] at h
    exact absurd rfl h
  | reported _ _ _ hseen _ => rw [hseen]

theorem after_of_mem_visits {calls : List Call} {v : Visit} (hv : v ∈ c.visits calls)
    (h : v.answer ≠ .ok true) : v.after = v.targets := by
  induction calls generalizing c with
  | nil => cases hv
  | cons call calls ih =>
    cases call with
    | push row => exact ih hv
    | fetch targets =>
      rcases List.mem_cons.mp hv with rfl | hv
      · exact after_visit targets h
      · exact ih hv

/-- The connection is closed exactly at the limit. -/
theorem closed_visit_iff (targets : List ScanTarget) :
    (∃ n, (c.visit targets).answer = .error (.closed n)) ↔ c.failAfter = some c.fetched := by
  cases served c targets with
  | closed limit hseen _ =>
    rw [hseen]
    exact ⟨fun _ => limit, fun _ => ⟨_, rfl⟩⟩
  | exhausted limit _ hseen _ =>
    rw [hseen]
    exact ⟨nofun, fun h => absurd h limit⟩
  | delivered limit _ _ hseen _ =>
    rw [hseen]
    exact ⟨nofun, fun h => absurd h limit⟩
  | reported limit _ _ hseen _ =>
    rw [hseen]
    exact ⟨nofun, fun h => absurd h limit⟩

theorem rows_of_visit_false {targets : List ScanTarget}
    (h : (c.visit targets).answer = .ok false) : c.rows = [] := by
  cases served c targets with
  | exhausted _ rows _ _ => exact rows
  | closed _ hseen _ => rw [hseen] at h; cases h
  | delivered _ _ _ hseen _ => rw [hseen] at h; cases h
  | reported _ _ _ hseen _ => rw [hseen] at h; cases h

/-- At its limit a cursor answers every fetch in the same way, and only pushes change it. -/
theorem run_closed (limit : c.failAfter = some c.fetched) (calls : List Call) :
    (c.run calls).rows = c.rows ++ pushed calls ∧
      ∀ v ∈ c.visits calls, v.answer = .error (.closed c.fetched) ∧ v.after = v.targets := by
  induction calls generalizing c with
  | nil => exact ⟨(List.append_nil _).symm, nofun⟩
  | cons call calls ih =>
    cases call with
    | push row =>
      obtain ⟨hrows, hvisits⟩ := ih (c := c.push row) limit
      refine ⟨?_, hvisits⟩
      calc ((c.push row).run calls).rows = c.rows ++ [row] ++ pushed calls := hrows
        _ = c.rows ++ pushed (.push row :: calls) := by
          rw [List.append_assoc]
          rfl
    | fetch targets =>
      cases served c targets with
      | closed _ hseen hstate =>
        obtain ⟨hrows, hvisits⟩ := ih limit
        rw [visits_fetch, hseen, hstate]
        refine ⟨?_, List.forall_mem_cons.mpr ⟨⟨rfl, rfl⟩, hvisits⟩⟩
        show ((c.next targets).state.run calls).rows = _
        rw [hstate]
        exact hrows
      | exhausted hopen _ _ _ => exact absurd limit hopen
      | delivered hopen _ _ _ _ => exact absurd limit hopen
      | reported hopen _ _ _ _ => exact absurd limit hopen

/-! ## The account of a run -/

/-- A cursor over some rows that has not been used, with its limit if it is set to fail. -/
def unused (columns : List Column) (rows : List (List (Option Cell))) (limit : Option Nat) :
    MemoryCursor :=
  ⟨columns, rows, limit, 0⟩

/-- What some calls make of a cursor that has not been used. -/
structure Ledger (c : MemoryCursor) (calls : List Call) : Prop where
  /-- The rows that leave are the first ones, in their order, each by one visit. -/
  order : ∃ left, c.rows ++ pushed calls = left ++ (c.run calls).rows ∧
    List.Forall₂ Visit.Takes (takings (c.visits calls)) left
  balance : (c.rows ++ pushed calls).length =
    (c.run calls).remaining + c.deliveries calls + c.reports calls
  /-- Only a row that is handed over changes targets. -/
  untouched : ∀ v ∈ c.visits calls, v.answer ≠ .ok true → v.after = v.targets
  /-- Rows are said to be used up only when they are. -/
  exhausted : ∀ targets, ((c.run calls).visit targets).answer = .ok false → (c.run calls).rows = []
  bounded : ∀ n, c.failAfter = some n → c.deliveries calls ≤ n
  /-- The next fetch finds the connection closed if and only if the limit is reached. -/
  closes : ∀ targets, (∃ n, ((c.run calls).visit targets).answer = .error (.closed n)) ↔
    c.failAfter = some (c.deliveries calls)
  /-- Once the limit is reached every later fetch finds the connection closed, the targets stay as
  they are, and nothing leaves. -/
  stays : c.failAfter = some (c.deliveries calls) → ∀ later,
    ((c.run calls).run later).rows = (c.run calls).rows ++ pushed later ∧
    ∀ v ∈ (c.run calls).visits later,
      v.answer = .error (.closed (c.deliveries calls)) ∧ v.after = v.targets

/-- **Every row is accounted for**, whatever is pushed and fetched in whatever order. -/
theorem ledger_run (columns : List Column) (rows : List (List (Option Cell)))
    (limit : Option Nat) (calls : List Call) : Ledger (unused columns rows limit) calls := by
  have hfetched : ((unused columns rows limit).run calls).fetched =
      (unused columns rows limit).deliveries calls :=
    (fetched_run calls).trans (Nat.zero_add _)
  have hlimit : ((unused columns rows limit).run calls).failAfter = limit := failAfter_run calls
  obtain ⟨left, hrows, htakes, hlength⟩ := takings_run (c := unused columns rows limit) calls
  refine ⟨⟨left, hrows, htakes⟩, ?_, ?_, ?_, ?_, ?_, ?_⟩
  · rw [hrows, List.length_append, hlength, remaining]
    omega
  · intro v hv
    exact after_of_mem_visits hv
  · intro targets
    exact rows_of_visit_false
  · intro n hn
    rw [← hfetched]
    exact fetched_le_run hn (Nat.zero_le n) calls
  · intro targets
    rw [closed_visit_iff, hlimit, hfetched]
    rfl
  · intro hreached later
    have hclosed : ((unused columns rows limit).run calls).failAfter =
        some ((unused columns rows limit).run calls).fetched := by
      rw [hlimit, hfetched]
      exact hreached
    rw [← hfetched]
    exact run_closed hclosed later

end FrameSource.MemoryCursor
