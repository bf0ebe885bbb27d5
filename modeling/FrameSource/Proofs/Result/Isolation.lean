import FrameSource.Proofs.Result.Calls
import FrameSource.Proofs.Result.Typed

/-!
# Rows do not see each other

A decoding uses one list of targets for all rows, and resets them before each fetch: they forget their
cells and keep their shapes. What a cursor finds in its targets and what it leaves there can be read
off the `Turn`s that `Cursor.observed` keeps.

**A row is decoded from what its own fetch left in the targets, and from nothing else**
(`decode_isolated`). At every fetch all targets are empty; a target that is left as it was found is
decoded as missing, and rows that were left alike in two results are alike, whatever the cursors wrote
before.

What is not so is that a fetch always finds the shapes of the columns' converters. It finds those that
the fetch before left, and a cursor is free to put a target of another shape in the place of one
(`not_found_fresh`). As long as the shape of a target is kept, it is that of its column's converter
(`Handed.kept`), and a cursor that only fills targets and sets cells keeps it.
-/

namespace FrameSource

/-- One turn of the decoding loop: the targets as the cursor found them, and as it left them. -/
structure Turn where
  found : List ScanTarget
  left : List ScanTarget
deriving DecidableEq

/-- The cursor that keeps its turns beside its state. -/
def Cursor.observed {σ : Type} (cursor : Cursor σ) : Cursor (σ × List Turn) where
  columns := cursor.columns
  fetch state targets :=
    let fetch := cursor.fetch state.1 targets
    ⟨fetch.writes, fetch.answer, fetch.state,
      state.2 ++ [⟨targets, ScanTarget.write targets fetch.writes⟩]⟩

/-- A converter without a decoding of its own making: it decodes by default, or timestamps. -/
def Converter.IsBuiltin (c : Converter) : Prop :=
  c.custom = none ∨ c.custom = some Decoding.default ∨ c.custom = some Decoding.timestamp

/-- Where nothing was written to a target, a built-in converter reads `null` from it. -/
theorem Converter.IsBuiltin.decode_missing {c : Converter} (h : c.IsBuiltin) :
    c.decode .missing = .ok .null := by
  have hdefault : Decoding.default c.signature .missing = .ok .null := by
    simp only [Decoding.default]
  rcases h with h | h | h
  · rw [decode, h]
    exact hdefault
  · rw [decode, h]
    exact hdefault
  · rw [decode, h]
    rfl

namespace Decode

variable {σ : Type} {cursor : Cursor σ} {slots : List Slot} {s : Standing slots σ}
  {state final : σ} {row : Nat} {rows : List (List Value)} {ending : Except DecodeError Unit}
  {registry : ConverterRegistry} {policy : UnknownColumnPolicy}

/-! ## The turns of a run -/

namespace Standing

/-- The turn of the next fetch. -/
def turn (cursor : Cursor σ) (s : Standing slots σ) : Turn :=
  ⟨s.offered, s.scan cursor⟩

/-- The turns of the next fetches. -/
def turns (cursor : Cursor σ) (fetches : Nat) (s : Standing slots σ) : List Turn :=
  (List.range fetches).map fun n => (s.after cursor n).turn cursor

theorem turns_succ (cursor : Cursor σ) (fetches : Nat) (s : Standing slots σ) :
    s.turns cursor (fetches + 1) = s.turn cursor :: (s.next cursor).turns cursor fetches := by
  rw [turns, List.range_succ_eq_map, List.map_cons, List.map_map]
  rfl

/-- The turn of a fetch is the one that is reached after as many fetches, so that laws about one
turn hold of all. -/
theorem getElem?_turns (cursor : Cursor σ) (s : Standing slots σ) {fetches n : Nat}
    (h : n < fetches) : (s.turns cursor fetches)[n]? = some ((s.after cursor n).turn cursor) := by
  rw [turns, List.getElem?_map, List.getElem?_range h, Option.map_some]

/-- A turn of a number is the one of the fetch of that number. -/
theorem eq_of_getElem?_turns {fetches n : Nat} {turn : Turn}
    (h : (s.turns cursor fetches)[n]? = some turn) : turn = (s.after cursor n).turn cursor := by
  have hn : n < fetches := by
    obtain ⟨hlt, _⟩ := List.getElem?_eq_some_iff.mp h
    rwa [turns, List.length_map, List.length_range] at hlt
  rw [getElem?_turns cursor s hn] at h
  exact (Option.some.inj h).symm

/-- The same place in the loop, with turns beside the state of the cursor. -/
def observing (s : Standing slots σ) (log : List Turn) : Standing slots (σ × List Turn) :=
  ⟨s.targets, (s.state, log), s.aligned⟩

/-- Whatever a target held, it is empty when the next fetch finds it. -/
theorem cell_of_mem_offered {target : ScanTarget} (h : target ∈ s.offered) :
    target.cell = .missing := by
  obtain ⟨_, _, rfl⟩ := List.mem_map.mp h
  rfl

end Standing

/-- In a run the observed cursor does what the cursor does, and keeps a turn for each row and the
last one. -/
theorem Run.observed (h : Run cursor s row rows ending final) (log : List Turn) :
    Run cursor.observed (s.observing log) row rows ending
      (final, log ++ s.turns cursor (rows.length + 1)) := by
  induction h generalizing log with
  | exhausted answer => exact .exhausted answer
  | failed answer => exact .failed answer
  | rejected answer converted => exact .rejected answer converted
  | @collected s final row values rows ending answer converted _ ih =>
    refine .collected answer converted ?_
    rw [List.length_cons, Standing.turns_succ, List.append_cons]
    exact ih _

/-- Where a run ends because a converter rejects a cell, the cell is one that the last turn left. -/
theorem Run.refused (h : Run cursor s row rows ending final) {e : DecodeError}
    (hending : ending = .error e) :
    (∃ cause, e = .cursor cause) ∨
      (kept slots).findSome? (Kept.refusal? (row + rows.length)
        ((s.after cursor rows.length).scan cursor)) = some e := by
  induction h with
  | exhausted _ => cases hending
  | @failed _ _ cause _ =>
    obtain rfl := Except.error.inj hending
    exact Or.inl ⟨cause, rfl⟩
  | @rejected s row e' _ converted =>
    obtain rfl := Except.error.inj hending
    have hrow := convertRow_cases row (s.length_scan cursor)
    rw [converted] at hrow
    exact Or.inr hrow
  | @collected _ _ row _ rows _ _ _ _ ih =>
    rw [List.length_cons, Nat.add_comm rows.length 1, ← Nat.add_assoc, Nat.add_comm 1]
    exact ih hending

/-! ## What is observed of a decoding -/

/-- A decoding of a cursor that ends, observed: what it returns, given enough fuel, and the turns that
it has taken by then. -/
def Observed (cursor : Cursor σ) (state : σ) (registry : ConverterRegistry)
    (policy : UnknownColumnPolicy) (result : Except DecodeError Frame) (seen : List Turn) : Prop :=
  ∃ needed final, ∀ fuel,
    decodeWithin fuel cursor state registry policy =
      (if needed ≤ fuel then some result else none) ∧
    decodeThrough fuel cursor.observed (state, []) registry policy =
      if needed ≤ fuel then some (result, final, seen) else none

section Observed

variable {result : Except DecodeError Frame} {seen : List Turn}

/-- A refused plan is observed without a turn. -/
theorem observed_of_refused {e : DecodeError}
    (hplan : plan registry policy cursor.columns = .error e) :
    Observed cursor state registry policy (.error e) [] := by
  refine ⟨0, state, ?_⟩
  intro fuel
  have hobserved : plan registry policy cursor.observed.columns = _ := hplan
  rw [decodeWithin_of_refused hplan, decodeThrough_of_refused hobserved, if_pos (Nat.zero_le fuel),
    if_pos (Nat.zero_le fuel)]
  exact ⟨rfl, rfl⟩

/-- A run is observed with its turns. -/
theorem Run.observes (h : Run cursor (Standing.start slots state) 0 rows ending final)
    (hplan : plan registry policy cursor.columns = .ok slots) :
    Observed cursor state registry policy (ending >>= fun _ => assemble slots rows)
      ((Standing.start slots state).turns cursor (rows.length + 1)) := by
  refine ⟨rows.length + 1, final, ?_⟩
  intro fuel
  exact ⟨h.decodeWithin_eq hplan fuel, (h.observed []).decodeThrough_eq hplan fuel⟩

/-- What the loop returns for some amount of fuel is what is observed. -/
theorem Observed.eq_of_through (h : Observed cursor state registry policy result seen) {fuel : Nat}
    {result' : Except DecodeError Frame} {final' : σ} {seen' : List Turn}
    (hdecode : decodeThrough fuel cursor.observed (state, []) registry policy =
      some (result', final', seen')) : result = result' ∧ seen = seen' := by
  obtain ⟨needed, final, hall⟩ := h
  rw [(hall fuel).2] at hdecode
  split at hdecode
  · cases hdecode
    exact ⟨rfl, rfl⟩
  · cases hdecode

/-- One decoding has one result and one list of turns. -/
theorem Observed.unique (h : Observed cursor state registry policy result seen)
    {result' : Except DecodeError Frame} {seen' : List Turn}
    (h' : Observed cursor state registry policy result' seen') : result = result' ∧ seen = seen' := by
  obtain ⟨needed, final, hall⟩ := h'
  apply h.eq_of_through
  rw [(hall needed).2, if_pos (Nat.le_refl needed)]

/-- What is observed is a refused plan or a run. -/
theorem Observed.exists_run (h : Observed cursor state registry policy result seen) :
    (∃ column : Column, result = .error (.unknownType column.name column.wireType) ∧ seen = []) ∨
    ∃ rows ending final,
      Run cursor (Standing.start (slotsOf registry cursor.columns) state) 0 rows ending final ∧
      result = (ending >>= fun _ => assemble (slotsOf registry cursor.columns) rows) ∧
      seen = (Standing.start (slotsOf registry cursor.columns) state).turns cursor
        (rows.length + 1) := by
  rcases plan_cases registry policy cursor.columns with ⟨column, hplan⟩ | hplan
  · exact Or.inl ⟨column, h.unique (observed_of_refused hplan)⟩
  · have ⟨needed, _, hall⟩ := h
    have hresult := (hall needed).1
    rw [if_pos (Nat.le_refl needed)] at hresult
    obtain ⟨rows, ending, final, hrun, _⟩ := exists_run_of_result hplan hresult
    exact Or.inr ⟨rows, ending, final, hrun, h.unique (hrun.observes hplan)⟩

/-- Where the cursor ends, the decoding has a result and turns that it is observed by. -/
theorem exists_observed (policy : UnknownColumnPolicy)
    (ends : Ends cursor (slotsOf registry cursor.columns) state) :
    ∃ result seen, Observed cursor state registry policy result seen := by
  rcases plan_cases registry policy cursor.columns with ⟨column, hplan⟩ | hplan
  · exact ⟨_, _, observed_of_refused hplan⟩
  · obtain ⟨rows, ending, final, hrun⟩ := Decode.exists_run ends
    exact ⟨_, _, hrun.observes hplan⟩

end Observed

/-! ## What a cursor finds -/

/-- The target of a column before anything is written to it: in the shape of the column's converter,
or direct if there is none, and empty. -/
def freshTarget (registry : ConverterRegistry) (column : Column) : ScanTarget where
  shape :=
    match registry.find? column.wireType with
    | some converter => converter.signature.shape
    | none => .direct
  cell := .missing

/-- The targets are made column by column, each of the shape that the registry asks for. -/
theorem freshTargets_slotsOf (registry : ConverterRegistry) (columns : List Column) :
    freshTargets (slotsOf registry columns) = columns.map (freshTarget registry) := by
  rw [freshTargets, slotsOf, List.map_map]
  rfl

/-- How the targets are handed from turn to turn, the first of which finds `fresh` ones. -/
structure Handed (fresh : List ScanTarget) (seen : List Turn) : Prop where
  /-- Every turn finds all targets empty. -/
  empty : ∀ turn ∈ seen, ∀ target ∈ turn.found, target.cell = .missing
  first : ∀ turn, seen[0]? = some turn → turn.found = fresh
  /-- A later turn finds as many targets as the turn before left, in the shapes in which it left
  them. -/
  later : ∀ (n : Nat) (turn turn' : Turn), seen[n]? = some turn → seen[n + 1]? = some turn' →
    turn'.found = turn.left.map fun target => ⟨target.shape, .missing⟩
  /-- A target whose shape no turn before has changed is as fresh as the first time. -/
  kept : ∀ (n : Nat) (turn : Turn) (position : Nat), seen[n]? = some turn →
    (∀ (m : Nat) (earlier : Turn), m < n → seen[m]? = some earlier →
      earlier.left[position]?.map ScanTarget.shape =
        earlier.found[position]?.map ScanTarget.shape) →
    turn.found[position]? = fresh[position]?

/-- From one turn to the next a target whose shape is kept stays as it was found. -/
theorem getElem?_offered_next {position : Nat}
    (h : ((s.turn cursor).left[position]?).map ScanTarget.shape =
      ((s.turn cursor).found[position]?).map ScanTarget.shape) :
    (s.next cursor).offered[position]? = s.offered[position]? := by
  have hfound : s.offered = s.offered.map ScanTarget.reset := by
    rw [Standing.offered, List.map_map]
    rfl
  calc (s.next cursor).offered[position]?
      = ((s.scan cursor)[position]?.map ScanTarget.shape).map ScanTarget.empty := by
        rw [Standing.offered, List.getElem?_map, Option.map_map]
        rfl
    _ = (s.offered[position]?.map ScanTarget.shape).map ScanTarget.empty := by
        exact congrArg _ h
    _ = s.offered[position]? := by
        rw [Option.map_map, hfound, List.getElem?_map, Option.map_map]
        rfl

/-- The turns of a loop hand its targets on. -/
theorem handed_turns (cursor : Cursor σ) (s : Standing slots σ) (fetches : Nat) :
    Handed s.offered (s.turns cursor fetches) where
  empty := by
    intro turn hturn target htarget
    obtain ⟨n, _, rfl⟩ := List.mem_map.mp hturn
    exact Standing.cell_of_mem_offered htarget
  first := by
    intro turn hturn
    rw [Standing.eq_of_getElem?_turns hturn]
    rfl
  later := by
    intro n turn turn' hturn hturn'
    rw [Standing.eq_of_getElem?_turns hturn, Standing.eq_of_getElem?_turns hturn',
      Standing.after_succ]
    rfl
  kept := by
    intro n turn position hturn hkept
    have hfetches : n < fetches := by
      obtain ⟨hlt, _⟩ := List.getElem?_eq_some_iff.mp hturn
      rwa [Standing.turns, List.length_map, List.length_range] at hlt
    rw [Standing.eq_of_getElem?_turns hturn]
    clear hturn
    -- turn by turn, from the first one on
    induction n with
    | zero => rfl
    | succ n ih =>
      have hbefore := ih (fun m earlier hm => hkept m earlier (Nat.lt_succ_of_lt hm))
        (Nat.lt_of_succ_lt hfetches)
      have hlast := hkept n _ (Nat.lt_succ_self n)
        (Standing.getElem?_turns cursor s (Nat.lt_of_succ_lt hfetches))
      rw [Standing.after_succ]
      exact (getElem?_offered_next hlast).trans hbefore

/-- At every turn of a cursor that only writes cells the targets are as fresh as the first time. -/
theorem found_of_keepsShapes (hkeeps : cursor.KeepsShapes) (slots : List Slot) (state : σ)
    (fetches : Nat) :
    ∀ turn ∈ (Standing.start slots state).turns cursor fetches,
      turn.found = freshTargets slots := by
  intro turn hturn
  obtain ⟨n, _, rfl⟩ := List.mem_map.mp hturn
  exact Standing.offered_after hkeeps slots state n

/-! ## What is read in one turn -/

/-- The cursor left the target at a position as it found it. -/
def Untouched (turn : Turn) (position : Nat) : Prop :=
  turn.left[position]? = turn.found[position]?

/-- A kept column has the value in the row of the turn. -/
structure Kept.ReadsTurn (turn : Turn) (k : Kept) (v : Value) : Prop where
  /-- The value is converted from the cell that was left in the column's target. -/
  left : k.Reads turn.left v
  /-- In a target that was not touched that cell is missing. -/
  untouched : Untouched turn k.position → k.converter.decode .missing = .ok v
  /-- Neither the default nor the decoding of timestamps makes anything but null of it. -/
  null : Untouched turn k.position → k.converter.IsBuiltin → v = .null

/-- What is read in a turn of the loop is read off that turn. -/
theorem Kept.Reads.readsTurn {k : Kept} {v : Value} (h : k.Reads (s.scan cursor) v) :
    k.ReadsTurn (s.turn cursor) v := by
  have huntouched : Untouched (s.turn cursor) k.position →
      k.converter.decode .missing = .ok v := by
    intro hsame
    obtain ⟨target, htarget, hv⟩ := h
    have hfound : target ∈ s.offered := List.mem_of_getElem? (hsame.symm.trans htarget)
    rwa [Standing.cell_of_mem_offered hfound] at hv
  refine ⟨h, huntouched, ?_⟩
  intro hsame hbuiltin
  exact Except.ok.inj ((huntouched hsame).symm.trans hbuiltin.decode_missing)

/-- What a decoding returns is read off the turns that were seen. A row of a frame is converted in
the turn of its number; a cell is rejected that was left in the turn of the row that the error
names, and it is the leftmost such cell. -/
def ReadOff (columns : List Kept) (seen : List Turn) : Except DecodeError Frame → Prop
  | .ok f => ∀ row, row < f.rowCount → ∃ turn values, seen[row]? = some turn ∧
      f.row? row = some values ∧ List.Forall₂ (Kept.ReadsTurn turn) columns values
  | .error (.convert column row cause) => ∃ turn, seen[row]? = some turn ∧
      columns.findSome? (Kept.refusal? row turn.left) = some (.convert column row cause)
  | .error _ => True

section ReadOff

variable {result : Except DecodeError Frame} {seen : List Turn}

/-- What a run makes is read off its turns. -/
theorem Run.readOff (h : Run cursor s 0 rows ending final) :
    ReadOff (kept slots) (s.turns cursor (rows.length + 1))
      (ending >>= fun _ => assemble slots rows) := by
  rcases h.ending_cases with rfl | ⟨cause, rfl⟩ | ⟨column, cause, rfl⟩
  · obtain ⟨f, hf, hrows, hcolumns⟩ := h.assemble_eq
    show ReadOff _ _ (assemble slots rows)
    rw [hf]
    intro row hrow
    have hscan : (s.scans cursor rows.length)[row]? = some ((s.after cursor row).scan cursor) := by
      rw [Standing.scans_eq_map, List.getElem?_map, List.getElem?_range (hrows ▸ hrow)]
      rfl
    obtain ⟨values, hvalues, hreads⟩ := f.row?_of_fills hcolumns hrow hscan
    refine ⟨_, values, s.getElem?_turns cursor (by omega), hvalues, ?_⟩
    exact hreads.imp fun _ _ hv => hv.readsTurn
  · trivial
  · rcases h.refused rfl with ⟨_, hcursor⟩ | hrefused
    · cases hcursor
    · rw [Nat.zero_add] at hrefused ⊢
      exact ⟨_, s.getElem?_turns cursor (Nat.lt_succ_self _), hrefused⟩

/-- The result of an observed decoding is read off what the turns left in the targets. -/
theorem Observed.readOff (h : Observed cursor state registry policy result seen) :
    ReadOff (kept (slotsOf registry cursor.columns)) seen result := by
  rcases h.exists_run with ⟨column, rfl, rfl⟩ | ⟨rows, ending, final, hrun, rfl, rfl⟩
  · trivial
  · exact hrun.readOff

/-- The first turn begins with empty targets in the shapes of the columns' converters, and the others
with what the turn before has made of them. -/
theorem Observed.handed (h : Observed cursor state registry policy result seen) :
    Handed (cursor.columns.map (freshTarget registry)) seen := by
  rcases h.exists_run with ⟨column, rfl, rfl⟩ | ⟨rows, ending, final, hrun, rfl, rfl⟩
  · exact ⟨nofun, nofun, nofun, nofun⟩
  · rw [← freshTargets_slotsOf, ← (Standing.shaped_start _ state).offered_eq]
    exact handed_turns cursor _ _

/-- If the cursor keeps the shapes of its targets, each turn finds them as new ones would be. For
the other cursors this fails, since a reset keeps whatever shape it finds. -/
theorem Observed.found (h : Observed cursor state registry policy result seen)
    (hkeeps : cursor.KeepsShapes) :
    ∀ turn ∈ seen, turn.found = cursor.columns.map (freshTarget registry) := by
  intro turn hturn
  rcases h.exists_run with ⟨column, rfl, rfl⟩ | ⟨rows, ending, final, hrun, rfl, rfl⟩
  · cases hturn
  · exact (found_of_keepsShapes hkeeps _ _ _ turn hturn).trans
      (freshTargets_slotsOf registry cursor.columns)

end ReadOff

/-- The cells that were left in the targets in the turn of a number. -/
def cellsLeft (seen : List Turn) (row : Nat) : Option (List Scanned) :=
  seen[row]?.map fun turn => turn.left.map ScanTarget.cell

/-- A kept column reads the same value wherever the cells are the same. -/
theorem Kept.Reads.eq_of_cells {k : Kept} {left left' : List ScanTarget} {v v' : Value}
    (h : k.Reads left v) (h' : k.Reads left' v')
    (hcells : left.map ScanTarget.cell = left'.map ScanTarget.cell) : v = v' := by
  obtain ⟨target, htarget, hv⟩ := h
  obtain ⟨target', htarget', hv'⟩ := h'
  have hcell := congrArg (fun cells => cells[k.position]?) hcells
  simp only [List.getElem?_map, htarget, htarget', Option.map_some, Option.some.injEq] at hcell
  rw [hcell, hv'] at hv
  exact (Except.ok.inj hv).symm

/-- **Rows that were left alike are alike**, in two frames of one list of kept columns. -/
theorem row?_eq_of_cellsLeft {columns : List Kept} {seen seen' : List Turn} {f g : Frame}
    (hf : ReadOff columns seen (.ok f)) (hg : ReadOff columns seen' (.ok g)) {row : Nat}
    (hrow : row < f.rowCount) (hrow' : row < g.rowCount)
    (hcells : cellsLeft seen row = cellsLeft seen' row) : f.row? row = g.row? row := by
  obtain ⟨turn, values, hturn, hvalues, hreads⟩ := hf row hrow
  obtain ⟨turn', values', hturn', hvalues', hreads'⟩ := hg row hrow'
  rw [cellsLeft, cellsLeft, hturn, hturn'] at hcells
  have heq : List.Forall₂ (· = ·) values values' :=
    forall₂_of_common (fun _ _ _ h h' => h.left.eq_of_cells h'.left (Option.some.inj hcells))
      hreads hreads'
  rw [List.forall₂_eq_eq_eq] at heq
  rw [hvalues, hvalues', heq]

/-- **Rows do not see each other.** The decoding of a cursor that ends can be observed. At each of
its fetches every target is empty. At the first one it is in the shape of its column's converter, or
direct if the column is skipped; later it is in the shape in which the fetch before left it, and so
it stays in the shape of the converter as long as no fetch puts a target of another shape in its
place: at every fetch, if the cursor only writes cells. A row is read off the targets that its own
fetch left, and a target that the fetch did not touch is read as missing, whatever an earlier one
had put there. If another cursor over the same columns, in whatever states, is decoded to a frame as
well, then a row for which both left the same cells is the same in the two frames. -/
theorem decode_isolated (policy : UnknownColumnPolicy)
    (ends : Ends cursor (slotsOf registry cursor.columns) state) :
    ∃ result seen, Observed cursor state registry policy result seen ∧
      Handed (cursor.columns.map (freshTarget registry)) seen ∧
      (cursor.KeepsShapes →
        ∀ turn ∈ seen, turn.found = cursor.columns.map (freshTarget registry)) ∧
      ReadOff (kept (slotsOf registry cursor.columns)) seen result ∧
      ∀ f, result = .ok f → ∀ {τ : Type} (other : Cursor τ) (start : τ) (g : Frame)
        (seen' : List Turn), other.columns = cursor.columns →
        Observed other start registry policy (.ok g) seen' →
        ∀ row, row < f.rowCount → row < g.rowCount →
          cellsLeft seen row = cellsLeft seen' row → f.row? row = g.row? row := by
  obtain ⟨result, seen, hobserved⟩ := exists_observed policy ends
  refine ⟨result, seen, hobserved, hobserved.handed, hobserved.found, hobserved.readOff, ?_⟩
  rintro f rfl τ other start g seen' hcolumns hother row hrow hrow' hcells
  have hread := hother.readOff
  rw [hcolumns] at hread
  exact row?_eq_of_cellsLeft hobserved.readOff hread hrow hrow' hcells

/-- A cursor with the columns of the wandering one. It leaves its first row empty; in the second row
it touches no target that is read, and then it ends. -/
def hesitant : Cursor Nat where
  columns := wandering.columns
  fetch state targets :=
    match state with
    | 0 => ⟨[], .ok true, 1⟩
    | 1 => ⟨ScanTarget.setEach targets [some .missing, some (.nullable none)], .ok true, 2⟩
    | _ => ⟨[], .ok false, 2⟩

/-- What is decoded from the hesitant cursor. -/
def hesitantFrame : Frame where
  columns :=
    [⟨"seen", "TIMESTAMP", .nullableTime, [.null, .null]⟩, ⟨"done", "BOOL", .bool, [.null, .null]⟩]
  rowCount := 2
  rectangular := by decide

/-- It sets cells and exchanges no targets, whatever targets it is given, so it keeps their shapes. -/
theorem keepsShapes_wandering : wandering.KeepsShapes := by
  intro state targets
  match state with
  | 0 | 1 => exact ScanTarget.map_shape_write_setEach targets _
  | _ + 2 => exact congrArg _ (ScanTarget.write_nil targets)

/-- Both cursors set cells in some targets only, and not in the same ones; they leave the same cells
for the second row, which is the same in both frames. -/
theorem decode_isolated_wandering :
    Ends wandering (slotsOf .standard wandering.columns) 0 ∧
    ∃ seen seen', Observed wandering 0 .standard .skip (.ok wanderingFrame) seen ∧
      Observed hesitant 0 .standard .skip (.ok hesitantFrame) seen' ∧
      Handed [.empty .nullable, .empty .direct, .empty .direct] seen ∧ wandering.KeepsShapes ∧
      (∀ turn ∈ seen, turn.found = [.empty .nullable, .empty .direct, .empty .direct]) ∧
      ReadOff (kept (slotsOf .standard wandering.columns)) seen (.ok wanderingFrame) ∧
      cellsLeft seen 0 ≠ cellsLeft seen' 0 ∧ cellsLeft seen 1 = cellsLeft seen' 1 ∧
      wanderingFrame.row? 1 = hesitantFrame.row? 1 := by
  have ends : Ends wandering (slotsOf .standard wandering.columns) 0 := ⟨2, by nofun⟩
  have ends' : Ends hesitant (slotsOf .standard hesitant.columns) 0 := ⟨2, by nofun⟩
  obtain ⟨result, seen, hobserved, hhanded, hfound, hread, halike⟩ := decode_isolated .skip ends
  obtain ⟨result', seen', hobserved'⟩ := exists_observed .skip ends'
  obtain ⟨rfl, rfl⟩ := hobserved.eq_of_through
    (show decodeThrough 3 wandering.observed (0, []) .standard .skip =
      some (.ok wanderingFrame, _, _) from rfl)
  obtain ⟨rfl, rfl⟩ := hobserved'.eq_of_through
    (show decodeThrough 3 hesitant.observed (0, []) .standard .skip =
      some (.ok hesitantFrame, _, _) from rfl)
  refine ⟨ends, _, _, hobserved, hobserved', hhanded, keepsShapes_wandering,
    hfound keepsShapes_wandering, hread, by decide, rfl, ?_⟩
  exact halike _ rfl hesitant 0 _ _ rfl hobserved' 1 (by decide) (by decide) rfl

/-- A cursor over one column of flags. For its first row it puts another target in the place of the one
it is given, with the cell in the right shape but in the wrong one itself; then it fills what it is
given. -/
def replacing : Cursor Nat where
  columns := [⟨"b", "BOOL"⟩]
  fetch state targets :=
    match state with
    | 0 => ⟨[some ⟨.nullable, .direct (.bool true)⟩], .ok true, 1⟩
    | 1 => ⟨targets.map fun target => some (target.fill (some (.bool false))), .ok true, 2⟩
    | _ => ⟨[], .ok false, 2⟩

/-- **A fetch need not find the shapes of the converters.** The first fetch left another shape, the
second one finds it, and what it fills in is refused. -/
theorem not_found_fresh :
    Ends replacing (slotsOf .standard replacing.columns) 0 ∧
    ∃ seen turn, Observed replacing 0 .standard .skip
        (.error (.convert "b" 1 (.shapeMismatch "BOOL" (.nullable (some (.bool false)))))) seen ∧
      turn ∈ seen ∧ turn.found = [.empty .nullable] ∧
      turn.found ≠ replacing.columns.map (freshTarget .standard) := by
  have ends : Ends replacing (slotsOf .standard replacing.columns) 0 := ⟨2, by nofun⟩
  obtain ⟨result, seen, hobserved⟩ := exists_observed .skip ends
  obtain ⟨rfl, rfl⟩ := hobserved.eq_of_through
    (show decodeThrough 3 replacing.observed (0, []) .standard .skip =
      some (.error (.convert "b" 1 (.shapeMismatch "BOOL" (.nullable (some (.bool false))))),
        _, _) from rfl)
  refine ⟨ends, _, ⟨[.empty .nullable], [⟨.nullable, .nullable (some (.bool false))⟩]⟩, hobserved,
    by decide, rfl, by decide⟩

end Decode

end FrameSource
