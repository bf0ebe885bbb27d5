import FrameSource.Proofs.Result.Columns

/-!
# Runs of the decoding loop

What the loop over the rows of a cursor does, without fuel. A `Run` fetches into the loop's targets,
turn after turn; every turn but the last collects a row of values, and the last one says how the loop
ends: the cursor has no more rows, the cursor fails, or a converter rejects a cell.

Between two fetches the loop stands (`Standing`) with the targets as the last fetch left them and with
the state of the cursor. Of the targets only the shapes go into the next fetch, and a cursor may have
changed those. Where it only writes cells, every fetch finds what the first one found: fresh targets
(`Standing.offered_after`).

A run is what the loop computes, given fuel for its turns (`Run.collect_eq`), and a cursor that ends
has a run (`exists_run`). That a cursor ends is a hypothesis here; nothing is said of one that does
not, except that some amount of fuel is not enough for it.
-/

namespace FrameSource.Decode

variable {σ : Type}

/-! ## One turn -/

/-- Where the loop stands between two fetches: its targets, one for each column, as they were left, and
the state of the cursor. -/
structure Standing (slots : List Slot) (σ : Type) where
  targets : List ScanTarget
  state : σ
  aligned : slots.length = targets.length

namespace Standing

variable {slots : List Slot}

/-- Before the first fetch the targets are fresh. -/
def start (slots : List Slot) (state : σ) : Standing slots σ :=
  ⟨freshTargets slots, state, (List.length_map _).symm⟩

/-- The targets as the next fetch finds them. -/
def offered (s : Standing slots σ) : List ScanTarget :=
  s.targets.map ScanTarget.reset

/-- The next fetch. -/
def fetch (cursor : Cursor σ) (s : Standing slots σ) : Fetch σ :=
  cursor.fetch s.state s.offered

/-- The targets after that fetch. -/
def scan (cursor : Cursor σ) (s : Standing slots σ) : List ScanTarget :=
  ScanTarget.write s.offered (s.fetch cursor).writes

theorem length_scan (cursor : Cursor σ) (s : Standing slots σ) :
    slots.length = (s.scan cursor).length := by
  rw [scan, ScanTarget.length_write, offered, List.length_map, s.aligned]

/-- Where the loop stands after that fetch. -/
def next (cursor : Cursor σ) (s : Standing slots σ) : Standing slots σ :=
  ⟨s.scan cursor, (s.fetch cursor).state, s.length_scan cursor⟩

/-- Where the loop stands after a number of fetches. -/
def after (cursor : Cursor σ) : (fetches : Nat) → Standing slots σ → Standing slots σ
  | 0, s => s
  | n + 1, s => after cursor n (s.next cursor)

/-- The last of some fetches may be told apart as well as the first. -/
theorem after_succ (cursor : Cursor σ) (n : Nat) (s : Standing slots σ) :
    s.after cursor (n + 1) = (s.after cursor n).next cursor := by
  induction n generalizing s with
  | zero => rfl
  | succ n ih => exact ih (s.next cursor)

/-- The targets after each of the first fetches. -/
def scans (cursor : Cursor σ) : (fetches : Nat) → Standing slots σ → List (List ScanTarget)
  | 0, _ => []
  | n + 1, s => s.scan cursor :: scans cursor n (s.next cursor)

/-- The fetches are numbered in the order in which they are made. -/
theorem scans_eq_map (cursor : Cursor σ) (fetches : Nat) (s : Standing slots σ) :
    s.scans cursor fetches =
      (List.range fetches).map fun n => (s.after cursor n).scan cursor := by
  induction fetches generalizing s with
  | zero => rfl
  | succ fetches ih =>
    rw [scans, ih, List.range_succ_eq_map, List.map_cons, List.map_map]
    rfl

/-- What the targets hold after a fetch is among what they hold during the decoding. -/
theorem mem_scans (cursor : Cursor σ) {fetches n : Nat} (h : n < fetches)
    (s : Standing slots σ) : (s.after cursor n).scan cursor ∈ s.scans cursor fetches := by
  rw [scans_eq_map]
  exact List.mem_map_of_mem (List.mem_range.mpr h)

/-! ### Shapes -/

/-- The targets are in the shapes of the columns, whatever they hold. -/
def Shaped (s : Standing slots σ) : Prop :=
  s.targets.map ScanTarget.shape = slots.map Slot.shape

theorem shaped_start (slots : List Slot) (state : σ) : (start slots state).Shaped := by
  show (freshTargets slots).map ScanTarget.shape = _
  rw [freshTargets, List.map_map]
  rfl

/-- Of the targets a fetch finds the shapes and nothing else. -/
theorem offered_eq (s : Standing slots σ) :
    s.offered = (s.targets.map ScanTarget.shape).map ScanTarget.empty := by
  rw [List.map_map]
  rfl

/-- Targets in the shapes of the columns are as good as fresh ones. -/
theorem Shaped.offered_eq {s : Standing slots σ} (h : s.Shaped) :
    s.offered = freshTargets slots := by
  rw [Standing.offered_eq, h, List.map_map]
  rfl

/-- Targets that have the planned shapes have them at the next fetch too, if the cursor keeps
shapes. -/
theorem Shaped.next {cursor : Cursor σ} (hkeeps : cursor.KeepsShapes) {s : Standing slots σ}
    (h : s.Shaped) : (s.next cursor).Shaped := by
  have hfresh : s.offered.map ScanTarget.shape = slots.map Slot.shape := by
    rw [h.offered_eq]
    exact shaped_start slots s.state
  exact (hkeeps s.state s.offered).trans hfresh

/-- **A cursor that only writes cells finds fresh targets at every fetch**, although it is always the
same targets that it is given. -/
theorem offered_after {cursor : Cursor σ} (hkeeps : cursor.KeepsShapes) (slots : List Slot)
    (state : σ) (n : Nat) :
    ((start slots state).after cursor n).offered = freshTargets slots := by
  have hshaped : ((start slots state).after cursor n).Shaped := by
    induction n with
    | zero => exact shaped_start slots state
    | succ n ih =>
      rw [after_succ]
      exact ih.next hkeeps
  exact hshaped.offered_eq

end Standing

/-- Some fetch is answered by something else than a row. -/
def Ends (cursor : Cursor σ) (slots : List Slot) (state : σ) : Prop :=
  ∃ n, (((Standing.start slots state).after cursor n).fetch cursor).answer ≠ .ok true

/-! ## Runs -/

variable {cursor : Cursor σ} {slots : List Slot} {s : Standing slots σ} {state final : σ} {row : Nat}
  {rows : List (List Value)} {ending : Except DecodeError Unit} {registry : ConverterRegistry}
  {policy : UnknownColumnPolicy}

/-- `Run cursor s row rows ending final`: from where it stands, and from row number `row` on, the loop
collects `rows`, ends in `ending`, and leaves the cursor in `final`. -/
inductive Run (cursor : Cursor σ) :
    Standing slots σ → Nat → List (List Value) → Except DecodeError Unit → σ → Prop
  /-- The cursor has no more rows. -/
  | exhausted {s : Standing slots σ} {row : Nat} (answer : (s.fetch cursor).answer = .ok false) :
    Run cursor s row [] (.ok ()) (s.fetch cursor).state
  /-- The cursor fails. -/
  | failed {s : Standing slots σ} {row : Nat} {cause : CursorError}
      (answer : (s.fetch cursor).answer = .error cause) :
    Run cursor s row [] (.error (.cursor cause)) (s.fetch cursor).state
  /-- A converter rejects a cell of the row. -/
  | rejected {s : Standing slots σ} {row : Nat} {e : DecodeError}
      (answer : (s.fetch cursor).answer = .ok true)
      (converted : convertRow row slots (s.scan cursor) = .error e) :
    Run cursor s row [] (.error e) (s.fetch cursor).state
  /-- The row is collected, and the loop goes on. -/
  | collected {s : Standing slots σ} {final : σ} {row : Nat} {values : List Value}
      {rows : List (List Value)} {ending : Except DecodeError Unit}
      (answer : (s.fetch cursor).answer = .ok true)
      (converted : convertRow row slots (s.scan cursor) = .ok values)
      (more : Run cursor (s.next cursor) (row + 1) rows ending final) :
    Run cursor s row (values :: rows) ending final

/-! ## Runs are what the loop does -/

/-- One turn of the loop, told by where it stands. -/
theorem collect_succ (cursor : Cursor σ) (s : Standing slots σ) (fuel row : Nat) :
    collect cursor slots (fuel + 1) s.targets s.state row =
      match (s.fetch cursor).answer with
      | .error cause => some (.error (.cursor cause), (s.fetch cursor).state)
      | .ok false => some (.ok [], (s.fetch cursor).state)
      | .ok true =>
        match convertRow row slots (s.scan cursor) with
        | .error e => some (.error e, (s.fetch cursor).state)
        | .ok values =>
          (collect cursor slots fuel (s.next cursor).targets (s.next cursor).state (row + 1)).map
            fun r => (r.1.map (values :: ·), r.2) := rfl

/-- **The loop with the fuel of a run does the run**: it returns the rows if the run ends well, and
its error otherwise. With less fuel it has no result. -/
theorem Run.collect_eq (h : Run cursor s row rows ending final) (fuel : Nat) :
    collect cursor slots fuel s.targets s.state row =
      if rows.length < fuel then some (ending.map fun _ => rows, final) else none := by
  induction h generalizing fuel with
  | exhausted answer =>
    cases fuel with
    | zero => rfl
    | succ fuel => simp [collect_succ, answer, Except.map]
  | failed answer =>
    cases fuel with
    | zero => rfl
    | succ fuel => simp [collect_succ, answer, Except.map]
  | rejected answer converted =>
    cases fuel with
    | zero => rfl
    | succ fuel => simp [collect_succ, answer, converted, Except.map]
  | @collected s final row values rows ending answer converted _ ih =>
    cases fuel with
    | zero => rfl
    | succ fuel =>
      simp only [collect_succ, answer, converted, ih, List.length_cons, Nat.add_lt_add_iff_right]
      split
      · cases ending <;> rfl
      · rfl

/-- If some fetch from here on is answered by something else than a row, there is a run, from any row
number on. -/
theorem exists_run_of_answer {n : Nat} (h : ((s.after cursor n).fetch cursor).answer ≠ .ok true)
    (row : Nat) : ∃ rows ending final, Run cursor s row rows ending final := by
  induction n generalizing s row with
  | zero =>
    cases ha : (s.fetch cursor).answer with
    | error cause => exact ⟨_, _, _, .failed ha⟩
    | ok more =>
      cases more with
      | false => exact ⟨_, _, _, .exhausted ha⟩
      | true => exact absurd ha h
  | succ n ih =>
    cases ha : (s.fetch cursor).answer with
    | error cause => exact ⟨_, _, _, .failed ha⟩
    | ok more =>
      cases more with
      | false => exact ⟨_, _, _, .exhausted ha⟩
      | true =>
        cases hc : convertRow row slots (s.scan cursor) with
        | error e => exact ⟨_, _, _, .rejected ha hc⟩
        | ok values =>
          obtain ⟨rows, ending, final, hrun⟩ := ih h (row + 1)
          exact ⟨_, _, _, .collected ha hc hrun⟩

/-- A cursor that ends has a run. -/
theorem exists_run (ends : Ends cursor slots state) :
    ∃ rows ending final, Run cursor (Standing.start slots state) 0 rows ending final := by
  obtain ⟨_, hanswer⟩ := ends
  exact exists_run_of_answer hanswer 0

/-- What the loop returns is the result of a run, whatever the cursor would do later. -/
theorem exists_run_of_collect {fuel : Nat}
    {result : Except DecodeError (List (List Value)) × σ}
    (h : collect cursor slots fuel s.targets s.state row = some result) :
    ∃ rows ending final, Run cursor s row rows ending final ∧
      result = (ending.map fun _ => rows, final) := by
  -- On the fuel: what the loop returns was reached by one of the four endings of a fetch.
  induction fuel generalizing s row result with
  | zero => cases h
  | succ fuel ih =>
    rw [collect_succ] at h
    cases ha : (s.fetch cursor).answer with
    | error cause =>
      rw [ha] at h
      exact ⟨_, _, _, .failed ha, (Option.some.inj h).symm⟩
    | ok more =>
      rw [ha] at h
      cases more with
      | false => exact ⟨_, _, _, .exhausted ha, (Option.some.inj h).symm⟩
      | true =>
        cases hc : convertRow row slots (s.scan cursor) with
        | error e =>
          simp only [hc] at h
          exact ⟨_, _, _, .rejected ha hc, (Option.some.inj h).symm⟩
        | ok values =>
          simp only [hc] at h
          obtain ⟨rest, hrest, rfl⟩ := Option.map_eq_some_iff.mp h
          obtain ⟨rows, ending, final, hrun, rfl⟩ := ih hrest
          refine ⟨_, _, _, .collected ha hc hrun, ?_⟩
          cases ending <;> rfl

/-- The rows of a run are the values that the kept columns read, fetch after fetch. -/
theorem Run.reads (h : Run cursor s row rows ending final) :
    List.Forall₂ (fun targets values =>
      List.Forall₂ (fun k v => Kept.Reads k targets v) (kept slots) values)
      (s.scans cursor rows.length) rows := by
  induction h with
  | exhausted _ => exact .nil
  | failed _ => exact .nil
  | rejected _ _ => exact .nil
  | @collected s final row values rows ending _ converted _ ih =>
    have hrow := convertRow_cases row (s.length_scan cursor)
    rw [converted] at hrow
    exact .cons hrow.2 ih

/-- The rows of a run make a frame, however the run ends. -/
theorem Run.assemble_eq (h : Run cursor s row rows ending final) :
    ∃ f, assemble slots rows = .ok f ∧ f.rowCount = rows.length ∧
      List.Forall₂ (Kept.Fills Kept.Reads (s.scans cursor rows.length)) (kept slots) f.columns :=
  assemble_of_reads h.reads

/-- **A decoding with the fuel of a run does the run.** -/
theorem Run.decodeThrough_eq (h : Run cursor (Standing.start slots state) 0 rows ending final)
    (hplan : plan registry policy cursor.columns = .ok slots) (fuel : Nat) :
    decodeThrough fuel cursor state registry policy =
      if rows.length < fuel then some (ending >>= fun _ => assemble slots rows, final)
      else none := by
  have hcollect : collect cursor slots fuel (freshTargets slots) state 0 = _ := h.collect_eq fuel
  simp only [decodeThrough, hplan, hcollect]
  split
  · cases ending <;> rfl
  · rfl

/-- A run of known rows needs one unit of fuel more than it has rows, since the last fetch finds
none. With less there is no result, and with any more the same. -/
theorem Run.decodeWithin_eq (h : Run cursor (Standing.start slots state) 0 rows ending final)
    (hplan : plan registry policy cursor.columns = .ok slots) (fuel : Nat) :
    decodeWithin fuel cursor state registry policy =
      if rows.length < fuel then some (ending >>= fun _ => assemble slots rows) else none := by
  rw [decodeWithin, h.decodeThrough_eq hplan]
  split <;> rfl

/-- A refused plan is all that there is to a decoding, and the cursor is left as it was. -/
theorem decodeThrough_of_refused {e : DecodeError}
    (hplan : plan registry policy cursor.columns = .error e) (fuel : Nat) :
    decodeThrough fuel cursor state registry policy = some (.error e, state) := by
  simp only [decodeThrough, hplan]

/-- A plan that is refused is the result before any row is asked for, with no fuel at all. -/
theorem decodeWithin_of_refused {e : DecodeError}
    (hplan : plan registry policy cursor.columns = .error e) (fuel : Nat) :
    decodeWithin fuel cursor state registry policy = some (.error e) := by
  rw [decodeWithin, decodeThrough_of_refused hplan]
  rfl

/-- What a decoding returns is made of a run of the planned columns. -/
theorem exists_run_of_result (hplan : plan registry policy cursor.columns = .ok slots) {fuel : Nat}
    {result : Except DecodeError Frame}
    (h : decodeWithin fuel cursor state registry policy = some result) :
    ∃ rows ending final, Run cursor (Standing.start slots state) 0 rows ending final ∧
      result = (ending >>= fun _ => assemble slots rows) := by
  obtain ⟨⟨_, left⟩, hthrough, rfl⟩ := Option.map_eq_some_iff.mp h
  rw [decodeThrough, hplan] at hthrough
  obtain ⟨collected, hcollect, hresult⟩ := Option.map_eq_some_iff.mp hthrough
  obtain ⟨rfl, rfl⟩ := Prod.mk.inj hresult
  obtain ⟨rows, ending, final, hrun, rfl⟩ :=
    exists_run_of_collect (s := Standing.start slots state) hcollect
  refine ⟨rows, ending, final, hrun, ?_⟩
  cases ending <;> rfl

/-- A frame that is returned is made of the rows of a run in which the cursor ended by itself. -/
theorem exists_run_of_decodeWithin {fuel : Nat} {f : Frame}
    (h : decodeWithin fuel cursor state registry policy = some (.ok f)) :
    ∃ rows final, Run cursor (Standing.start (slotsOf registry cursor.columns) state) 0 rows
        (.ok ()) final ∧
      assemble (slotsOf registry cursor.columns) rows = .ok f := by
  rcases plan_cases registry policy cursor.columns with ⟨column, hplan⟩ | hplan
  · rw [decodeWithin_of_refused hplan] at h
    cases h
  · obtain ⟨rows, ending, final, hrun, hframe⟩ := exists_run_of_result hplan h
    cases ending with
    | error e => cases hframe
    | ok _ => exact ⟨rows, final, hrun, hframe.symm⟩

end FrameSource.Decode
