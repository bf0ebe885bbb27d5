import FrameSource.Proofs.Result.Queue
import FrameSource.Proofs.Result.Run

/-!
# Decoding rows in memory

What becomes of a memory cursor, told by its rows. `firstFault?` goes through them and asks of each
fetch what goes wrong in it: the connection is closed, the row has the wrong width, or a converter
rejects a cell. Neither targets nor fetches occur in it, and a kept column finds its cell at its
position among all columns. Targets need not occur: the cursor fills all of them or none, and leaves
them in their shapes, so that it finds fresh ones at every fetch (`MemoryCursor.keepsShapes`).

**A decoding is the reference** (`decodeMemory_reference`): an unknown type is the error if the
policy says so, else the first fault is, and without one there is a frame of the cells' values.
-/

namespace FrameSource.Decode

/-! ## Cells of rows -/

namespace Kept

/-- What the converter makes of a cell of the column, which comes in the shape that it asks for. -/
def convert (k : Kept) (cell : Option Cell) : Except ConvertError Value :=
  k.converter.decode (.shaped k.converter.signature.shape cell)

/-- In a row of cells, the cell at the position of the column has the value. -/
def ReadsCell (k : Kept) (cells : List (Option Cell)) (v : Value) : Prop :=
  ∃ cell, cells[k.position]? = some cell ∧ k.convert cell = .ok v

/-- The error of a row of cells in which the converter rejects the cell of the column. -/
def rejection? (row : Nat) (cells : List (Option Cell)) (k : Kept) : Option DecodeError :=
  match cells[k.position]? with
  | none => none
  | some cell =>
    match k.convert cell with
    | .ok _ => none
    | .error cause => some (.convert k.column.name row cause)

end Kept

/-- The targets for the columns, filled with the cells of a row. -/
def filled (slots : List Slot) (cells : List (Option Cell)) : List ScanTarget :=
  List.zipWith (fun slot cell => ⟨slot.shape, .shaped slot.shape cell⟩) slots cells

/-- New targets that are filled with the cells of a row hold these cells, each in the shape of its
column. -/
theorem zipWith_fill_fresh (slots : List Slot) (cells : List (Option Cell)) :
    List.zipWith ScanTarget.fill (freshTargets slots) cells = filled slots cells := by
  rw [freshTargets, List.zipWith_map_left]
  rfl

/-- The target of a kept column holds the cell at its position, in the shape of its converter. -/
theorem getElem?_filled {slots : List Slot} {k : Kept} (hk : k ∈ kept slots)
    (cells : List (Option Cell)) :
    (filled slots cells)[k.position]? = cells[k.position]?.map fun cell =>
      ⟨k.converter.signature.shape, .shaped k.converter.signature.shape cell⟩ := by
  rw [filled, List.getElem?_zipWith, getElem?_of_mem_kept hk]
  cases cells[k.position]? <;> rfl

/-- What a kept column reads from filled targets is what it makes of its own cell. -/
theorem reads_filled {slots : List Slot} {k : Kept} (hk : k ∈ kept slots)
    {cells : List (Option Cell)} {v : Value} (h : k.Reads (filled slots cells) v) :
    k.ReadsCell cells v := by
  obtain ⟨target, htarget, hv⟩ := h
  rw [getElem?_filled hk] at htarget
  obtain ⟨cell, hcell, rfl⟩ := Option.map_eq_some_iff.mp htarget
  exact ⟨cell, hcell, hv⟩

theorem refusal?_filled {slots : List Slot} {k : Kept} (hk : k ∈ kept slots) (row : Nat)
    (cells : List (Option Cell)) :
    k.refusal? row (filled slots cells) = k.rejection? row cells := by
  rw [Kept.refusal?, Kept.rejection?, getElem?_filled hk]
  cases cells[k.position]? <;> rfl

/-- The first refusal in a row is the leftmost rejected cell, by the places of the columns in the
result. -/
theorem findSome?_refusal_filled (slots : List Slot) (row : Nat) (cells : List (Option Cell)) :
    (kept slots).findSome? (Kept.refusal? row (filled slots cells)) =
      (kept slots).findSome? (Kept.rejection? row cells) := by
  rw [← List.head?_filterMap, ← List.head?_filterMap,
    List.filterMap_congr fun k hk => refusal?_filled hk row cells]

/-- A row of cells converts to a value for each kept column, unless one rejects its cell; the
leftmost one that does decides. -/
theorem convertRow_filled (row : Nat) {slots : List Slot} {cells : List (Option Cell)}
    (h : slots.length = cells.length) :
    match convertRow row slots (filled slots cells) with
    | .error e => (kept slots).findSome? (Kept.rejection? row cells) = some e
    | .ok values => (kept slots).findSome? (Kept.rejection? row cells) = none ∧
        List.Forall₂ (fun k v => k.ReadsCell cells v) (kept slots) values := by
  have hlength : slots.length = (filled slots cells).length := by
    rw [filled, List.length_zipWith, ← h, Nat.min_self]
  have hrow := convertRow_cases row hlength
  rw [findSome?_refusal_filled] at hrow
  cases hc : convertRow row slots (filled slots cells) with
  | error e =>
    rw [hc] at hrow
    exact hrow
  | ok values =>
    rw [hc] at hrow
    refine ⟨hrow.1, ?_⟩
    exact forall₂_imp_mem hrow.2 fun k hk v hv => reads_filled hk hv

/-! ## Faults -/

/-- What goes wrong in the fetch of row number `row`, if anything. The cursor has delivered a number
of rows before; `cells?` is the row that comes next, if there is one. The connection comes first,
even if there are no more rows. -/
def fault? (c : MemoryCursor) (ks : List Kept) (row delivered : Nat)
    (cells? : Option (List (Option Cell))) : Option DecodeError :=
  if c.failAfter = some delivered then some (.cursor (.closed delivered))
  else
    match cells? with
    | none => none
    | some cells =>
      if cells.length = c.columns.length then ks.findSome? (Kept.rejection? row cells)
      else some (.cursor (.invalidRow (.width cells.length c.columns.length)))

/-- The cursor once it has delivered a row; the other rows are left. -/
def afterRow (c : MemoryCursor) (rows : List (List (Option Cell))) : MemoryCursor :=
  { c with rows := rows, fetched := c.fetched + 1 }

/-- The first fault in the rows of a cursor, numbered from `row` on, and in the fetch after them. -/
def firstFault? (c : MemoryCursor) (ks : List Kept) (row : Nat) : Option DecodeError :=
  (List.range (c.rows.length + 1)).findSome? fun r =>
    fault? c ks (row + r) (c.fetched + r) c.rows[r]?

theorem firstFault?_nil {c : MemoryCursor} (h : c.rows = []) (ks : List Kept) (row : Nat) :
    firstFault? c ks row = fault? c ks row c.fetched none := by
  simp only [firstFault?, h, List.length_nil, Nat.zero_add, List.range_one,
    List.findSome?_singleton, Nat.add_zero, List.getElem?_nil]

/-- Of two faults the one in the earlier row is reported; the later rows count on from this one. -/
theorem firstFault?_cons {c : MemoryCursor} {cells : List (Option Cell)}
    {rows : List (List (Option Cell))} (h : c.rows = cells :: rows) (ks : List Kept) (row : Nat) :
    firstFault? c ks row = (fault? c ks row c.fetched (some cells)).or
      (firstFault? (afterRow c rows) ks (row + 1)) := by
  have hrest : (List.map Nat.succ (List.range (rows.length + 1))).findSome? (fun r =>
      fault? c ks (row + r) (c.fetched + r) (cells :: rows)[r]?) =
      firstFault? (afterRow c rows) ks (row + 1) := by
    rw [List.findSome?_map, firstFault?]
    congr 1
    funext r
    show fault? c ks (row + (r + 1)) (c.fetched + (r + 1)) rows[r]? = _
    rw [Nat.add_comm r 1, ← Nat.add_assoc, ← Nat.add_assoc]
    rfl
  rw [firstFault?, h, List.length_cons, List.range_succ_eq_map, List.findSome?_cons, hrest]
  simp only [Nat.add_zero, List.getElem?_cons_zero]
  cases fault? c ks row c.fetched (some cells) <;> rfl

theorem Kept.rejection?_eq_none {k : Kept} {cells : List (Option Cell)} {v : Value}
    (h : k.ReadsCell cells v) (row : Nat) : k.rejection? row cells = none := by
  obtain ⟨cell, hcell, hv⟩ := h
  simp only [Kept.rejection?, hcell, hv]

/-- Where the connection stays open, every row has the right width and every kept column finds a cell
that it converts, there is no fault. -/
theorem firstFault?_eq_none {c : MemoryCursor} {ks : List Kept} (hopen : c.failAfter = none)
    (hrows : ∀ cells ∈ c.rows, cells.length = c.columns.length ∧
      ∀ k ∈ ks, ∃ v, k.ReadsCell cells v) (row : Nat) :
    firstFault? c ks row = none := by
  rw [firstFault?, List.findSome?_eq_none_iff]
  intro r _
  show fault? c ks (row + r) (c.fetched + r) c.rows[r]? = none
  cases hcells : c.rows[r]? with
  | none => rw [fault?, hopen, if_neg nofun]
  | some cells =>
    obtain ⟨hwidth, hreads⟩ := hrows cells (List.mem_of_getElem? hcells)
    rw [fault?, hopen, if_neg nofun, if_pos hwidth, List.findSome?_eq_none_iff]
    intro k hk
    obtain ⟨v, hv⟩ := hreads k hk
    exact Kept.rejection?_eq_none hv _

/-! ## The run over the rows -/

section Fetches

variable {slots : List Slot} {s : Standing slots MemoryCursor} (columns : List Column)

/-- Where the targets are in the shapes of the columns, the fetch of a memory cursor is a visit with
fresh targets. -/
theorem Standing.Shaped.visit_eq (h : s.Shaped) :
    s.state.visit (freshTargets slots) =
      ⟨freshTargets slots, (s.fetch ⟨columns, MemoryCursor.next⟩).answer,
        s.scan ⟨columns, MemoryCursor.next⟩⟩ := by
  rw [MemoryCursor.visit, Standing.scan, Standing.fetch, h.offered_eq]

/-- From targets of the planned shapes, a fetch does to the queue what it does from new ones. -/
theorem Standing.Shaped.state_next (h : s.Shaped) :
    (s.next ⟨columns, MemoryCursor.next⟩).state =
      (s.state.next (freshTargets slots)).state := by
  show (MemoryCursor.next s.state s.offered).state = _
  rw [h.offered_eq]

/-- The fetch after the last row ends the run: without rows, or because the connection is closed. -/
theorem Standing.Shaped.exists_run_nil (h : s.Shaped) (hrows : s.state.rows = []) (row : Nat) :
    (∃ e final, fault? s.state (kept slots) row s.state.fetched none = some e ∧
      Run ⟨columns, MemoryCursor.next⟩ s row [] (.error e) final) ∨
    ∃ final, fault? s.state (kept slots) row s.state.fetched none = none ∧
      Run ⟨columns, MemoryCursor.next⟩ s row [] (.ok ()) final := by
  have hvisit := h.visit_eq columns
  cases MemoryCursor.served s.state (freshTargets slots) with
  | closed limit seen =>
    obtain ⟨_, hanswer, _⟩ := MemoryCursor.Visit.mk.inj (seen.symm.trans hvisit)
    exact .inl ⟨_, _, if_pos limit, .failed hanswer.symm⟩
  | exhausted limit _ seen =>
    obtain ⟨_, hanswer, _⟩ := MemoryCursor.Visit.mk.inj (seen.symm.trans hvisit)
    exact .inr ⟨_, if_neg limit, .exhausted hanswer.symm⟩
  | delivered _ rows =>
    rw [hrows] at rows
    cases rows
  | reported _ rows =>
    rw [hrows] at rows
    cases rows

/-- The fetch of a row. A fault ends the run there, be it of the cursor or of a cell; without one the
row is handed over, its values are those of its cells, and the cursor is at the next row. -/
theorem Standing.Shaped.run_or_collects (h : s.Shaped)
    (hslots : slots.length = s.state.columns.length) {cells : List (Option Cell)}
    {rest : List (List (Option Cell))} (hrows : s.state.rows = cells :: rest) (row : Nat) :
    (∃ e final, fault? s.state (kept slots) row s.state.fetched (some cells) = some e ∧
      Run ⟨columns, MemoryCursor.next⟩ s row [] (.error e) final) ∨
    ∃ values, fault? s.state (kept slots) row s.state.fetched (some cells) = none ∧
      (s.fetch ⟨columns, MemoryCursor.next⟩).answer = .ok true ∧
      convertRow row slots (s.scan ⟨columns, MemoryCursor.next⟩) = .ok values ∧
      List.Forall₂ (fun k v => k.ReadsCell cells v) (kept slots) values ∧
      (s.next ⟨columns, MemoryCursor.next⟩).state = afterRow s.state rest := by
  have hvisit := h.visit_eq columns
  have hfresh : (freshTargets slots).length = s.state.columns.length :=
    (List.length_map _).trans hslots
  cases MemoryCursor.served s.state (freshTargets slots) with
  | closed limit seen =>
    obtain ⟨_, hanswer, _⟩ := MemoryCursor.Visit.mk.inj (seen.symm.trans hvisit)
    exact .inl ⟨_, _, if_pos limit, .failed hanswer.symm⟩
  | exhausted _ rows =>
    rw [hrows] at rows
    cases rows
  | reported limit rows width seen =>
    obtain ⟨rfl, rfl⟩ := List.cons.inj (hrows.symm.trans rows)
    obtain ⟨_, hanswer, _⟩ := MemoryCursor.Visit.mk.inj (seen.symm.trans hvisit)
    rw [hfresh] at width hanswer
    refine .inl ⟨_, _, ?_, .failed hanswer.symm⟩
    rw [fault?, if_neg limit]
    exact if_neg width
  | delivered limit rows width seen hstate =>
    obtain ⟨rfl, rfl⟩ := List.cons.inj (hrows.symm.trans rows)
    obtain ⟨_, hanswer, hscan⟩ := MemoryCursor.Visit.mk.inj (seen.symm.trans hvisit)
    rw [zipWith_fill_fresh] at hscan
    have hfault : fault? s.state (kept slots) row s.state.fetched (some cells) =
        (kept slots).findSome? (Kept.rejection? row cells) := by
      rw [fault?, if_neg limit]
      exact if_pos (width.trans hfresh)
    have hconvert := convertRow_filled row (width.trans (List.length_map _)).symm
    rw [hscan] at hconvert
    cases hc : convertRow row slots (s.scan ⟨columns, MemoryCursor.next⟩) with
    | error e =>
      rw [hc] at hconvert
      exact .inl ⟨_, _, hfault.trans hconvert, .rejected hanswer.symm hc⟩
    | ok values =>
      rw [hc] at hconvert
      obtain ⟨hnone, hvalues⟩ := hconvert
      exact .inr ⟨values, hfault.trans hnone, hanswer.symm, rfl, hvalues,
        (h.state_next columns).trans hstate⟩

end Fetches

/-- A memory cursor has a run, in which it delivers no more rows than it has. Its first fault is the
error of the run; without one the run collects the values of all rows. -/
theorem exists_run_memory (columns : List Column) {slots : List Slot}
    {s : Standing slots MemoryCursor} (hshaped : s.Shaped)
    (hslots : slots.length = s.state.columns.length) (row : Nat) :
    ∃ rows ending final, Run ⟨columns, MemoryCursor.next⟩ s row rows ending final ∧
      rows.length ≤ s.state.rows.length ∧
      match firstFault? s.state (kept slots) row with
      | some e => ending = .error e
      | none => ending = .ok () ∧ List.Forall₂ (fun cells values =>
          List.Forall₂ (fun k v => k.ReadsCell cells v) (kept slots) values) s.state.rows rows := by
  generalize hrows : s.state.rows = all
  -- Along the rows that are left: a fetch keeps the shapes, so the next one starts as this one did.
  induction all generalizing s row with
  | nil =>
    rw [firstFault?_nil hrows]
    obtain ⟨e, final, hfault, hrun⟩ | ⟨final, hfault, hrun⟩ :=
      hshaped.exists_run_nil columns hrows row
    · exact ⟨[], _, final, hrun, Nat.le_refl 0, by rw [hfault]⟩
    · refine ⟨[], _, final, hrun, Nat.le_refl 0, ?_⟩
      rw [hfault]
      exact ⟨rfl, .nil⟩
  | cons cells rest ih =>
    rw [firstFault?_cons hrows]
    obtain ⟨e, final, hfault, hrun⟩ | ⟨values, hfault, hanswer, hconvert, hvalues, hnext⟩ :=
      hshaped.run_or_collects columns hslots hrows row
    · exact ⟨[], _, final, hrun, Nat.zero_le _, by rw [hfault, Option.some_or]⟩
    · have hkept := hshaped.next (MemoryCursor.keepsShapes columns)
      obtain ⟨more, ending, final, hrun, hlength, hrest⟩ :=
        ih hkept (hslots.trans (congrArg (·.columns.length) hnext).symm) (row + 1)
          (congrArg MemoryCursor.rows hnext)
      rw [hnext] at hrest
      refine ⟨_, _, _, .collected hanswer hconvert hrun, Nat.succ_le_succ hlength, ?_⟩
      rw [hfault, Option.none_or]
      cases hfirst : firstFault? (afterRow s.state rest) (kept slots) (row + 1) with
      | some e =>
        rw [hfirst] at hrest
        exact hrest
      | none =>
        rw [hfirst] at hrest
        exact ⟨hrest.1, .cons hvalues hrest.2⟩

/-! ## The result -/

/-- Decoding a cursor in memory needs fuel for its rows and for the fetch that finds none. That is
always enough, so the function has a result where the loop only might have one. -/
theorem decodeMemory_eq {c : MemoryCursor} {registry : ConverterRegistry}
    {policy : UnknownColumnPolicy} {result : Except DecodeError Frame}
    (h : decodeWithin (c.remaining + 1) c.cursor c registry policy = some result) :
    decodeMemory c registry policy = result :=
  Option.get_of_eq_some _ h

/-- Where the plan is refused, nothing else matters. -/
theorem decodeMemory_of_refused {c : MemoryCursor} {registry : ConverterRegistry}
    {policy : UnknownColumnPolicy} {e : DecodeError}
    (hplan : plan registry policy c.columns = .error e) :
    decodeMemory c registry policy = .error e := by
  apply decodeMemory_eq
  have hrefused : plan registry policy c.cursor.columns = .error e := hplan
  exact decodeWithin_of_refused hrefused _

/-- Where the plan is accepted, the faults decide. -/
theorem decodeMemory_of_plan {c : MemoryCursor} {registry : ConverterRegistry}
    {policy : UnknownColumnPolicy}
    (hplan : plan registry policy c.columns = .ok (slotsOf registry c.columns)) :
    match firstFault? c (kept (slotsOf registry c.columns)) 0 with
    | some e => decodeMemory c registry policy = .error e
    | none => ∃ f, decodeMemory c registry policy = .ok f ∧ f.rowCount = c.rows.length ∧
        List.Forall₂ (Kept.Fills Kept.ReadsCell c.rows) (kept (slotsOf registry c.columns))
          f.columns := by
  have hslots : (slotsOf registry c.columns).length = c.columns.length := List.length_map _
  obtain ⟨rows, ending, final, hrun, hlength, hfaults⟩ :=
    exists_run_memory c.columns (Standing.shaped_start (slotsOf registry c.columns) c) hslots 0
  change match firstFault? c _ 0 with | some e => _ | none => _ at hfaults
  have hdecode : decodeMemory c registry policy =
      ending >>= fun _ => assemble (slotsOf registry c.columns) rows := by
    apply decodeMemory_eq
    exact (hrun.decodeWithin_eq hplan _).trans (if_pos (Nat.lt_succ_of_le hlength))
  cases hfirst : firstFault? c (kept (slotsOf registry c.columns)) 0 with
  | some e =>
    rw [hfirst] at hfaults
    rw [hdecode, hfaults]
    rfl
  | none =>
    rw [hfirst] at hfaults
    obtain ⟨hending, hreads⟩ := hfaults
    obtain ⟨f, hf, hrows, hcolumns⟩ := assemble_of_reads hreads
    refine ⟨f, ?_, hrows.trans hreads.length_eq.symm, hcolumns⟩
    rw [hdecode, hending]
    exact hf

/-! ## What the cells determine -/

/-- The cell of a column in a row has one value. -/
theorem Kept.rightUnique_readsCell (k : Kept) : Relator.RightUnique k.ReadsCell := by
  rintro cells v w ⟨cell, hcell, hv⟩ ⟨cell', hcell', hw⟩
  rw [hcell] at hcell'
  obtain rfl := Option.some.inj hcell'
  rw [hv] at hw
  exact Except.ok.inj hw

/-- The cells of the rows determine the column of a frame. -/
theorem Kept.rightUnique_fills (rows : List (List (Option Cell))) :
    Relator.RightUnique (Kept.Fills Kept.ReadsCell rows) := by
  rintro k ⟨name, wireType, fieldType, values⟩ ⟨name', wireType', fieldType', values'⟩ ha hb
  have hname : name = name' := ha.name.trans hb.name.symm
  have hwireType : wireType = wireType' := ha.wireType.trans hb.wireType.symm
  have hfieldType : fieldType = fieldType' := ha.fieldType.trans hb.fieldType.symm
  have hvalues : values = values' :=
    List.right_unique_forall₂' k.rightUnique_readsCell ha.values hb.values
  rw [hname, hwireType, hfieldType, hvalues]

/-- Where the plan is made and there is a fault, the first one is the result. -/
theorem decodeMemory_eq_error {c : MemoryCursor} {registry : ConverterRegistry}
    {policy : UnknownColumnPolicy} {e : DecodeError}
    (hplan : plan registry policy c.columns = .ok (slotsOf registry c.columns))
    (hfault : firstFault? c (kept (slotsOf registry c.columns)) 0 = some e) :
    decodeMemory c registry policy = .error e := by
  have hdecode := decodeMemory_of_plan hplan
  rw [hfault] at hdecode
  exact hdecode

/-- Without a fault there is a frame. -/
theorem exists_frame {c : MemoryCursor} {registry : ConverterRegistry}
    {policy : UnknownColumnPolicy}
    (hplan : plan registry policy c.columns = .ok (slotsOf registry c.columns))
    (hfault : firstFault? c (kept (slotsOf registry c.columns)) 0 = none) :
    ∃ f, decodeMemory c registry policy = .ok f ∧ f.rowCount = c.rows.length ∧
      List.Forall₂ (Kept.Fills Kept.ReadsCell c.rows) (kept (slotsOf registry c.columns))
        f.columns := by
  have hdecode := decodeMemory_of_plan hplan
  rw [hfault] at hdecode
  exact hdecode

/-- The frame is the one that the cells of the rows fill. -/
theorem decodeMemory_eq_ok {c : MemoryCursor} {registry : ConverterRegistry}
    {policy : UnknownColumnPolicy} {f : Frame}
    (hplan : plan registry policy c.columns = .ok (slotsOf registry c.columns))
    (hfault : firstFault? c (kept (slotsOf registry c.columns)) 0 = none)
    (hrows : f.rowCount = c.rows.length)
    (hcolumns : List.Forall₂ (Kept.Fills Kept.ReadsCell c.rows) (kept (slotsOf registry c.columns))
      f.columns) :
    decodeMemory c registry policy = .ok f := by
  obtain ⟨g, hg, hgrows, hgcolumns⟩ := exists_frame hplan hfault
  have hsame : g.columns = f.columns :=
    List.right_unique_forall₂' (Kept.rightUnique_fills c.rows) hgcolumns hcolumns
  obtain ⟨columns, rowCount, _⟩ := f
  obtain ⟨columns', rowCount', _⟩ := g
  obtain rfl : columns' = columns := hsame
  obtain rfl : rowCount' = rowCount := hgrows.trans hrows.symm
  exact hg

/-- A frame that is returned is filled by the cells of the rows. -/
theorem fills_of_decodeMemory {c : MemoryCursor} {registry : ConverterRegistry}
    {policy : UnknownColumnPolicy} {f : Frame} (h : decodeMemory c registry policy = .ok f) :
    List.Forall₂ (Kept.Fills Kept.ReadsCell c.rows) (kept (slotsOf registry c.columns))
      f.columns := by
  rcases plan_cases registry policy c.columns with ⟨column, hplan⟩ | hplan
  · rw [decodeMemory_of_refused hplan] at h
    cases h
  · cases hfault : firstFault? c (kept (slotsOf registry c.columns)) 0 with
    | some e =>
      rw [decodeMemory_eq_error hplan hfault] at h
      cases h
    | none =>
      obtain ⟨g, hg, _, hcolumns⟩ := exists_frame hplan hfault
      obtain rfl : g = f := Except.ok.inj (hg.symm.trans h)
      exact hcolumns

/-! ## The reference -/

/-- **Decoding rows in memory is the reference.** An unknown type comes first, if the policy refuses
it; then the first fault in the rows and in the fetch after them. Without any the frame has as many
rows as the cursor, also where every column was skipped, and its columns are the kept ones, in the
order of the cursor, with what their converters make of the cells at their positions. -/
theorem decodeMemory_reference (c : MemoryCursor) (registry : ConverterRegistry)
    (policy : UnknownColumnPolicy) :
    match (unknownType? registry policy c.columns).or
      (firstFault? c (kept (slotsOf registry c.columns)) 0) with
    | some e => decodeMemory c registry policy = .error e
    | none => ∃ f, decodeMemory c registry policy = .ok f ∧ f.rowCount = c.rows.length ∧
        List.Forall₂ (Kept.Fills Kept.ReadsCell c.rows) (kept (slotsOf registry c.columns))
          f.columns := by
  have hplan := plan_eq registry policy c.columns
  cases hunknown : unknownType? registry policy c.columns with
  | none =>
    rw [hunknown] at hplan
    exact decodeMemory_of_plan hplan
  | some e =>
    rw [hunknown] at hplan
    exact decodeMemory_of_refused hplan

end FrameSource.Decode
