import FrameSource.Proofs.Result.Reference

/-!
# Selecting columns

A cursor over some of the columns of another one: `MemoryCursor.select` deletes the other columns,
and their cells from every row. A kept column moves to an earlier position by that, and finds the
same cells there (`kept_select`).

**Skipping a column is not selecting it** (`decodeMemory_skip`). What is decoded when columns of
unknown types are skipped is what is decoded from the columns of known types alone, in every error
too; so no cell of a skipped column has any influence.
-/

namespace FrameSource

/-- Whether a registry has a converter for a column. -/
def ConverterRegistry.knows (registry : ConverterRegistry) (column : Column) : Bool :=
  (registry.find? column.wireType).isSome

/-- The items of a row that stand at the positions of selected columns. -/
def Column.selectItems {α : Type} (selected : Column → Bool) (columns : List Column)
    (items : List α) : List α :=
  ((columns.zip items).filter fun item => selected item.1).map Prod.snd

/-- The cursor over the selected columns and their cells. -/
def MemoryCursor.select (selected : Column → Bool) (c : MemoryCursor) : MemoryCursor :=
  { c with
    columns := c.columns.filter selected
    rows := c.rows.map (Column.selectItems selected c.columns) }

namespace Column

variable {α : Type} (selected : Column → Bool)

theorem selectItems_cons (column : Column) (columns : List Column) (item : α) (items : List α) :
    selectItems selected (column :: columns) (item :: items) =
      if selected column then item :: selectItems selected columns items
      else selectItems selected columns items := by
  simp only [selectItems, List.zip_cons_cons, List.filter_cons]
  split <;> rfl

theorem length_selectItems {columns : List Column} {items : List α}
    (h : items.length = columns.length) :
    (selectItems selected columns items).length = (columns.filter selected).length := by
  induction columns generalizing items with
  | nil => rfl
  | cons column columns ih =>
    cases items with
    | nil => cases h
    | cons item items =>
      have hrest := ih (Nat.succ.inj h)
      rw [selectItems_cons, List.filter_cons]
      split
      · rw [List.length_cons, List.length_cons, hrest]
      · exact hrest

/-- Rows that agree at the positions of the selected columns are the same row once the others are
deleted. -/
theorem selectItems_congr {columns : List Column} {items others : List α}
    (hitems : items.length = columns.length) (hothers : others.length = columns.length)
    (h : ∀ (position : Nat) (column : Column), columns[position]? = some column →
      selected column = true → others[position]? = items[position]?) :
    selectItems selected columns others = selectItems selected columns items := by
  induction columns generalizing items others with
  | nil => rfl
  | cons column columns ih =>
    cases items with
    | nil => cases hitems
    | cons item items =>
      cases others with
      | nil => cases hothers
      | cons other others =>
        have hrest := ih (Nat.succ.inj hitems) (Nat.succ.inj hothers)
          fun position => h (position + 1)
        rw [selectItems_cons, selectItems_cons, hrest]
        by_cases hselected : selected column = true
        · have hhead : other = item := Option.some.inj (h 0 column rfl hselected)
          rw [hhead]
        · rw [if_neg hselected, if_neg hselected]

end Column

namespace Decode

open Column

variable {registry : ConverterRegistry}

/-! ## Positions -/

/-- The same column once columns were deleted: every row holds the same cell for it, at another
position. -/
structure Kept.Moves (registry : ConverterRegistry) (columns : List Column) (k moved : Kept) :
    Prop where
  column : moved.column = k.column
  converter : moved.converter = k.converter
  cell : ∀ cells : List (Option Cell), cells.length = columns.length →
    (selectItems registry.knows columns cells)[moved.position]? = cells[k.position]?

/-- A column in front that is deleted moves the others by one. -/
theorem Kept.Moves.skip {column : Column} (h : registry.knows column = false)
    {columns : List Column} {k moved : Kept} (hk : k.Moves registry columns moved) :
    k.shift.Moves registry (column :: columns) moved where
  column := hk.column
  converter := hk.converter
  cell := by
    intro cells hcells
    cases cells with
    | nil => cases hcells
    | cons cell cells =>
      rw [selectItems_cons, h]
      exact hk.cell cells (Nat.succ.inj hcells)

/-- A column in front that is kept moves the places of the others in both results. -/
theorem Kept.Moves.shift {column : Column} (h : registry.knows column = true)
    {columns : List Column} {k moved : Kept} (hk : k.Moves registry columns moved) :
    k.shift.Moves registry (column :: columns) moved.shift where
  column := hk.column
  converter := hk.converter
  cell := by
    intro cells hcells
    cases cells with
    | nil => cases hcells
    | cons cell cells =>
      rw [selectItems_cons, h]
      exact hk.cell cells (Nat.succ.inj hcells)

theorem Kept.Moves.first {column : Column} (h : registry.knows column = true)
    (columns : List Column) (converter : Converter) :
    Kept.Moves registry (column :: columns) ⟨0, column, converter⟩ ⟨0, column, converter⟩ where
  column := rfl
  converter := rfl
  cell := by
    intro cells hcells
    cases cells with
    | nil => cases hcells
    | cons cell cells =>
      rw [selectItems_cons, h]
      rfl

/-- Deleting the columns that are not kept leaves the kept ones, with their cells. -/
theorem kept_select (registry : ConverterRegistry) (columns : List Column) :
    List.Forall₂ (Kept.Moves registry columns) (kept (slotsOf registry columns))
      (kept (slotsOf registry (columns.filter registry.knows))) := by
  -- A column in front moves the kept ones behind it by one, after the deletion only if it stays.
  induction columns with
  | nil => exact .nil
  | cons column columns ih =>
    rw [slotsOf, List.map_cons, kept_cons]
    cases hfind : registry.find? column.wireType with
    | none =>
      have hknows : registry.knows column = false := by rw [ConverterRegistry.knows, hfind]; rfl
      rw [List.filter_cons, hknows]
      simp only [Option.map_none, Option.toList_none, List.nil_append,
        List.forall₂_map_left_iff]
      exact ih.imp fun _ _ hk => hk.skip hknows
    | some converter =>
      have hknows : registry.knows column = true := by rw [ConverterRegistry.knows, hfind]; rfl
      rw [List.filter_cons, if_pos hknows, slotsOf, List.map_cons, kept_cons, hfind]
      simp only [Option.map_some, Option.toList_some, List.cons_append, List.nil_append]
      refine .cons (.first hknows columns converter) ?_
      rw [List.forall₂_map_left_iff, List.forall₂_map_right_iff]
      exact ih.imp fun _ _ hk => hk.shift hknows

/-! ## Faults -/

/-- A kept column rejects the same cell for the same reason wherever it has moved to. -/
theorem Kept.Moves.rejection?_eq {columns : List Column} {k moved : Kept}
    (h : k.Moves registry columns moved) (row : Nat) {cells : List (Option Cell)}
    (hcells : cells.length = columns.length) :
    k.rejection? row cells = moved.rejection? row (selectItems registry.knows columns cells) := by
  unfold Kept.rejection? Kept.convert
  rw [h.cell cells hcells, h.column, h.converter]

section Select

variable (registry : ConverterRegistry) {c : MemoryCursor}

/-- A fetch has the same fault once columns were deleted. -/
theorem fault?_select (row delivered : Nat) {cells? : Option (List (Option Cell))}
    (hwidth : ∀ cells ∈ cells?, cells.length = c.columns.length) :
    fault? (c.select registry.knows) (kept (slotsOf registry (c.select registry.knows).columns))
        row delivered (cells?.map (selectItems registry.knows c.columns)) =
      fault? c (kept (slotsOf registry c.columns)) row delivered cells? := by
  unfold fault?
  show (if c.failAfter = some delivered then _ else _) = _
  split
  · rfl
  · cases cells? with
    | none => rfl
    | some cells =>
      have hcells := hwidth cells rfl
      have hselected : (selectItems registry.knows c.columns cells).length =
          (c.select registry.knows).columns.length := length_selectItems _ hcells
      simp only [Option.map_some, hcells, hselected, if_true]
      exact (findSome?_congr_forall₂
        ((kept_select registry c.columns).imp fun _ _ hk => hk.rejection?_eq row hcells)).symm

/-- The first fault is the same after the unknown columns are taken out, with the same number of the
row and the same name of the column. -/
theorem firstFault?_select (hwidth : ∀ cells ∈ c.rows, cells.length = c.columns.length) :
    firstFault? (c.select registry.knows)
        (kept (slotsOf registry (c.select registry.knows).columns)) 0 =
      firstFault? c (kept (slotsOf registry c.columns)) 0 := by
  have hrows : (c.select registry.knows).rows.length = c.rows.length := List.length_map _
  rw [firstFault?, firstFault?, hrows]
  congr 1
  funext r
  show fault? _ _ _ _ (c.rows.map (selectItems registry.knows c.columns))[r]? = _
  rw [List.getElem?_map]
  exact fault?_select registry _ _ fun cells hcells => hwidth cells (List.mem_of_getElem? hcells)

/-- A column of a frame is filled by the rows that are left once columns were deleted. -/
theorem Kept.Moves.fills {k moved : Kept} {column : FrameColumn}
    (h : k.Moves registry c.columns moved)
    (hwidth : ∀ cells ∈ c.rows, cells.length = c.columns.length)
    (hfills : k.Fills Kept.ReadsCell c.rows column) :
    moved.Fills Kept.ReadsCell (c.select registry.knows).rows column where
  name := by rw [hfills.name, h.column]
  wireType := by rw [hfills.wireType, h.column]
  fieldType := by rw [hfills.fieldType, h.converter]
  values := by
    show List.Forall₂ _ (c.rows.map (selectItems registry.knows c.columns)) _
    rw [List.forall₂_map_left_iff]
    refine forall₂_imp_mem hfills.values ?_
    rintro cells hcells v ⟨cell, hcell, hv⟩
    refine ⟨cell, (h.cell cells (hwidth cells hcells)).trans hcell, ?_⟩
    rw [Kept.convert, h.converter]
    exact hv

end Select

/-! ## Skipping -/

/-- Rows agree on the columns that a registry knows. -/
def AgreeOnKnown (registry : ConverterRegistry) (columns : List Column)
    (cells others : List (Option Cell)) : Prop :=
  others.length = columns.length ∧ ∀ (position : Nat) (column : Column),
    columns[position]? = some column → registry.knows column = true →
      others[position]? = cells[position]?

/-- After the deletion no type is unknown. -/
theorem plan_select (registry : ConverterRegistry) (columns : List Column) :
    plan registry .fail (columns.filter registry.knows) =
      .ok (slotsOf registry (columns.filter registry.knows)) :=
  plan_of_known (fun _ hcolumn => (List.mem_filter.mp hcolumn).2) .fail

theorem plan_skip (registry : ConverterRegistry) (columns : List Column) :
    plan registry .skip columns = .ok (slotsOf registry columns) :=
  plan_eq registry .skip columns

/-- What is decoded from the selected columns is what is decoded when the others are skipped. -/
theorem decodeMemory_select {c : MemoryCursor} (registry : ConverterRegistry)
    (hwidth : ∀ cells ∈ c.rows, cells.length = c.columns.length) :
    decodeMemory (c.select registry.knows) registry .fail = decodeMemory c registry .skip := by
  have hskip := plan_skip registry c.columns
  have hknown := plan_select registry c.columns
  have hfaults := firstFault?_select registry hwidth
  cases hfault : firstFault? c (kept (slotsOf registry c.columns)) 0 with
  | some e =>
    rw [hfault] at hfaults
    rw [decodeMemory_eq_error hskip hfault]
    exact decodeMemory_eq_error hknown hfaults
  | none =>
    rw [hfault] at hfaults
    obtain ⟨f, hf, hrows, hcolumns⟩ := exists_frame hskip hfault
    rw [hf]
    refine decodeMemory_eq_ok hknown hfaults ?_ ?_
    · rw [hrows]
      exact (List.length_map _).symm
    · exact forall₂_of_common (fun _ _ _ hmoves hfills => hmoves.fills registry hwidth hfills)
        (kept_select registry c.columns) hcolumns

/-- Cells of skipped columns have no influence. -/
theorem decodeMemory_congr {c : MemoryCursor} {registry : ConverterRegistry}
    {rows : List (List (Option Cell))}
    (hwidth : ∀ cells ∈ c.rows, cells.length = c.columns.length)
    (hrows : List.Forall₂ (AgreeOnKnown registry c.columns) c.rows rows) :
    decodeMemory { c with rows := rows } registry .skip = decodeMemory c registry .skip := by
  have hothers : ∀ others ∈ rows, others.length = c.columns.length := by
    intro others hmem
    obtain ⟨_, _, hagree⟩ := forall₂_exists_left hrows hmem
    exact hagree.1
  have hselected : rows.map (selectItems registry.knows c.columns) =
      c.rows.map (selectItems registry.knows c.columns) := by
    rw [eq_comm, ← List.forall₂_eq_eq_eq, List.forall₂_map_left_iff, List.forall₂_map_right_iff]
    refine forall₂_imp_mem hrows ?_
    intro cells hcells others hagree
    exact (selectItems_congr _ (hwidth cells hcells) hagree.1 hagree.2).symm
  have hcursor : MemoryCursor.select registry.knows { c with rows := rows } =
      c.select registry.knows := by
    rw [MemoryCursor.select, MemoryCursor.select]
    simp only [hselected]
  -- The deletion makes the rows equal, and only what it leaves is decoded.
  rw [← decodeMemory_select registry hothers, ← decodeMemory_select registry hwidth, hcursor]

/-- **Skipping a column is not selecting it.** Where every row has a cell for each column, decoding
with the policy to skip gives what decoding only the columns of known types gives: the same frame, or
the same error with the same column, row and cause. Rows that differ in skipped columns alone are
decoded alike. -/
theorem decodeMemory_skip (c : MemoryCursor) (registry : ConverterRegistry)
    (hwidth : ∀ cells ∈ c.rows, cells.length = c.columns.length) :
    decodeMemory c registry .skip = decodeMemory (c.select registry.knows) registry .fail ∧
      ∀ rows, List.Forall₂ (AgreeOnKnown registry c.columns) c.rows rows →
        decodeMemory { c with rows := rows } registry .skip = decodeMemory c registry .skip := by
  refine ⟨(decodeMemory_select registry hwidth).symm, ?_⟩
  intro rows hrows
  exact decodeMemory_congr hwidth hrows

/-- Rows with an identifier, which no standard converter is for, between two other cells. The last
cell of the second row is not of its type. -/
def identified : MemoryCursor :=
  .ofRows [⟨"count", "INT2"⟩, ⟨"id", "UUID"⟩, ⟨"done", "BOOL"⟩]
    [[some (.int16 7), some (.text "3f2a"), some (.bool true)],
     [none, some (.bool false), some (.text "no")]]

/-- Cells of an unknown column in front of a cell that is rejected: they do not matter for the
error. -/
theorem decodeMemory_skip_identified :
    (∀ cells ∈ identified.rows, cells.length = identified.columns.length) ∧
      decodeMemory (identified.select ConverterRegistry.standard.knows) .standard .fail =
        .error (.convert "done" 1 (.shapeMismatch "BOOL" (.direct (.text "no")))) ∧
      decodeMemory
          { identified with rows :=
              [[some (.int16 7), none, some (.bool true)], [none, none, some (.text "no")]] }
          .standard .skip =
        .error (.convert "done" 1 (.shapeMismatch "BOOL" (.direct (.text "no")))) := by
  have hwidth : ∀ cells ∈ identified.rows, cells.length = identified.columns.length := by decide
  obtain ⟨hskip, hcongr⟩ := decodeMemory_skip identified .standard hwidth
  have hdecode : decodeMemory identified .standard .skip =
      .error (.convert "done" 1 (.shapeMismatch "BOOL" (.direct (.text "no")))) := rfl
  refine ⟨hwidth, hskip.symm.trans hdecode, (hcongr _ ?_).trans hdecode⟩
  have hagree : ∀ others : List (Option Cell), others.length = 3 → ∀ cells,
      others[0]? = cells[0]? → others[2]? = cells[2]? →
        AgreeOnKnown .standard identified.columns cells others := by
    intro others hlength cells hfirst hlast
    refine ⟨hlength, ?_⟩
    intro position column hcolumn hknows
    match position with
    | 0 => exact hfirst
    | 1 =>
      obtain rfl := Option.some.inj hcolumn
      exact absurd hknows (by decide)
    | 2 => exact hlast
    | position + 3 => cases hcolumn
  exact .cons (hagree _ rfl _ rfl rfl) (.cons (hagree _ rfl _ rfl rfl) .nil)

end Decode

end FrameSource
