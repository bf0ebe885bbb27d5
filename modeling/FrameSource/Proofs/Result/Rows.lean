import FrameSource.Proofs.Result.Columns

/-!
# Frames by rows and by columns

A frame is made of columns. Making one fails for the first column that is not as long as there
are rows, and for nothing else (`Frame.build_eq_error_iff`, `Frame.build_eq_ok_iff`); so a frame is
a rectangle, and can be read by rows as well.

**Rows and columns are each other's, turned** (`Frame.readable`): a row is there exactly if its
number is below the number of rows, it has the entry of every column, and either of the two lists of
lists is the transpose of the other. That includes frames without columns, whose rows are empty but
counted, and frames without rows. Of several columns of one name the first is found.
-/

namespace FrameSource

/-- The first element of a list that has a property. -/
def IsFirst {α : Type} (p : α → Prop) (as : List α) (a : α) : Prop :=
  p a ∧ ∃ before after, as = before ++ a :: after ∧ ∀ b ∈ before, ¬ p b

theorem find?_eq_some_iff_isFirst {α : Type} {p : α → Prop} [DecidablePred p] {as : List α}
    {a : α} : as.find? (fun x => p x) = some a ↔ IsFirst p as a := by
  simp only [List.find?_eq_some_iff_append, IsFirst, decide_eq_true_eq, Bool.not_eq_true',
    decide_eq_false_iff_not]

namespace Frame

variable {columns : List FrameColumn} {n : ℕ} {f : Frame} {e : DecodeError}

/-! ## Making a frame -/

/-- What is made has the columns and the number of rows that were given. -/
theorem build_eq_ok_iff : build columns n = .ok f ↔ f.columns = columns ∧ f.rowCount = n := by
  constructor
  · intro h
    unfold build at h
    split at h
    · cases h
    · cases h
      exact ⟨rfl, rfl⟩
  · rintro ⟨rfl, rfl⟩
    obtain ⟨g, hg, hcolumns, hrows⟩ := Decode.build_of_size f.rectangular
    rw [hg]
    cases f
    cases g
    cases hcolumns
    cases hrows
    rfl

/-- **A frame is refused for its first column of another length**, with both lengths. -/
theorem build_eq_error_iff : build columns n = .error e ↔
    ∃ c, IsFirst (fun c => c.size ≠ n) columns c ∧ e = .rowCountMismatch c.name n c.size := by
  unfold build
  split
  · next c hc =>
    have hfirst := find?_eq_some_iff_isFirst.mp hc
    constructor
    · intro h
      cases h
      exact ⟨c, hfirst, rfl⟩
    · rintro ⟨d, hd, rfl⟩
      obtain rfl := Option.some.inj (hc.symm.trans (find?_eq_some_iff_isFirst.mpr hd))
      rfl
  · next hc =>
    constructor
    · intro h
      cases h
    · rintro ⟨d, hd, rfl⟩
      cases hc.symm.trans (find?_eq_some_iff_isFirst.mpr hd)

theorem exists_build_iff : (∃ f, build columns n = .ok f) ↔ ∀ c ∈ columns, c.size = n := by
  constructor
  · rintro ⟨f, hf⟩
    obtain ⟨rfl, rfl⟩ := build_eq_ok_iff.mp hf
    exact f.rectangular
  · intro h
    obtain ⟨f, hf, -⟩ := Decode.build_of_size h
    exact ⟨f, hf⟩

/-! ## Rows -/

/-- A row is there if and only if the frame has as many. -/
theorem exists_row?_iff {row : ℕ} : (∃ values, f.row? row = some values) ↔ row < f.rowCount := by
  constructor
  · rintro ⟨values, h⟩
    unfold row? at h
    split at h
    · assumption
    · cases h
  · exact f.exists_row?

/-- A row holds at each position the value of the column at that position. -/
theorem getElem?_row? {row : ℕ} {values : List Value} (h : f.row? row = some values) (j : ℕ) :
    values[j]? = f.columns[j]?.bind (·.get? row) := by
  have hentries := forall₂_row? h
  cases hcolumn : f.columns[j]? with
  | none =>
    rw [List.getElem?_eq_none_iff] at hcolumn
    rw [Option.bind_none, List.getElem?_eq_none_iff, ← hentries.length_eq]
    exact hcolumn
  | some column =>
    obtain ⟨v, hv, hget⟩ := forall₂_getElem? hentries hcolumn
    rw [hv, Option.bind_some, hget]

/-- The list of the rows has every row at its number. -/
theorem getElem?_rows (f : Frame) (row : ℕ) : f.rows[row]? = f.row? row := by
  by_cases h : row < f.rowCount
  · obtain ⟨values, hvalues, hrow⟩ := forall₂_getElem? f.forall₂_range_rows (List.getElem?_range h)
    rw [hvalues, hrow]
  · rw [row?, if_neg h, List.getElem?_eq_none_iff, f.length_rows]
    exact Nat.le_of_not_lt h

/-- A listed row has a number. -/
theorem exists_row?_of_mem {values : List Value} (h : values ∈ f.rows) :
    ∃ row, f.row? row = some values := by
  obtain ⟨row, _, hrow⟩ := forall₂_exists_left f.forall₂_range_rows h
  exact ⟨row, hrow⟩

/-- The value that a column has in a row stands in the row at the number of the column. -/
theorem exists_row?_of_get? {j row : ℕ} {column : FrameColumn} {v : Value}
    (hcolumn : f.columns[j]? = some column) (hv : column.get? row = some v) :
    ∃ values, f.row? row = some values ∧ values[j]? = some v := by
  have hrow : row < f.rowCount := by
    rw [← f.rectangular column (List.mem_of_getElem? hcolumn)]
    exact (List.getElem?_eq_some_iff.mp hv).1
  obtain ⟨values, hvalues⟩ := f.exists_row? hrow
  refine ⟨values, hvalues, ?_⟩
  rw [getElem?_row? hvalues, hcolumn, Option.bind_some, hv]

/-! ## Turning -/

/-- The values of a column, by the numbers of the rows. -/
theorem forall₂_values {column : FrameColumn} (h : column ∈ f.columns) :
    List.Forall₂ (fun row v => column.values[row]? = some v) (List.range f.rowCount)
      column.values := by
  rw [← f.rectangular column h]
  exact forall₂_range column.values

/-- Each column lists its values by the numbers of the rows, none left out. -/
theorem forall₂_columns (f : Frame) :
    List.Forall₂ (fun column values =>
      List.Forall₂ (fun row v => column.values[row]? = some v) (List.range f.rowCount) values)
      f.columns (f.columns.map (·.values)) := by
  rw [List.forall₂_map_right_iff, List.forall₂_same]
  exact fun column hcolumn => forall₂_values hcolumn

/-- What is looked up along a list is determined by where it is looked up. -/
theorem rightUnique_lookups {κ ι : Type} (get : κ → ι → Option Value) (is : List ι) :
    Relator.RightUnique fun (k : κ) (values : List Value) =>
      List.Forall₂ (fun i v => get k i = some v) is values := by
  intro k values values' h h'
  have hunique : Relator.RightUnique fun i v => get k i = some v :=
    fun _ _ _ hv hw => Option.some.inj (hv.symm.trans hw)
  exact List.right_unique_forall₂' hunique h h'

/-- The columns are the rows, turned. -/
theorem values_eq_transpose (f : Frame) :
    f.columns.map (·.values) = Decode.transpose f.columns.length f.rows := by
  have hunique := rightUnique_lookups (fun (column : FrameColumn) (row : ℕ) =>
    column.values[row]?) (List.range f.rowCount)
  exact List.right_unique_forall₂' hunique f.forall₂_columns
    (Decode.forall₂_transpose f.forall₂_rows)

/-- The rows are the columns, turned. -/
theorem rows_eq_transpose (f : Frame) :
    f.rows = Decode.transpose f.rowCount (f.columns.map (·.values)) := by
  have hunique := rightUnique_lookups (fun (row : ℕ) (column : FrameColumn) =>
    column.values[row]?) f.columns
  have hturned := Decode.forall₂_transpose f.forall₂_columns
  rw [List.length_range] at hturned
  exact List.right_unique_forall₂' hunique f.forall₂_rows hturned

/-! ## Every frame -/

/-- What may be relied on in reading a frame. -/
structure Readable (f : Frame) : Prop where
  /-- A row is there exactly if its number is below the number of rows. -/
  present : ∀ row : ℕ, (∃ values, f.row? row = some values) ↔ row < f.rowCount
  /-- A row that is there has one entry for each column, namely the column's own. -/
  entries : ∀ (row : ℕ) (values : List Value), f.row? row = some values →
    values.length = f.columns.length ∧ ∀ j : ℕ, values[j]? = f.columns[j]?.bind (·.get? row)
  /-- The rows in order. -/
  numbered : ∀ row : ℕ, f.rows[row]? = f.row? row
  /-- The rows are the columns, turned. -/
  rows : f.rows = Decode.transpose f.rowCount (f.columns.map (·.values))
  /-- The columns are the rows, turned. -/
  columns : f.columns.map (·.values) = Decode.transpose f.columns.length f.rows
  /-- The first column of a name is the one that is found under it. -/
  named : ∀ name c, f.column? name = some c ↔ IsFirst (fun c => c.name = name) f.columns c

/-- **Every frame can be read**: its values are found where its counts say. The sizes are part of
what a frame is. -/
theorem readable (f : Frame) : f.Readable where
  present _ := exists_row?_iff
  entries _ _ h := ⟨(forall₂_row? h).length_eq.symm, getElem?_row? h⟩
  numbered := f.getElem?_rows
  rows := f.rows_eq_transpose
  columns := f.values_eq_transpose
  named _ _ := find?_eq_some_iff_isFirst

/-- **Frames are rectangles.** Making one fails if and only if a column is not as long as there are
rows; the fault is that of the first such column, and names both lengths. If it does not fail, the
frame has just these columns and rows. And every frame, decoded or made from columns, reads the same
by rows as by columns. -/
theorem build_rectangle (columns : List FrameColumn) (n : ℕ) :
    ((∃ e, build columns n = .error e) ↔ ∃ c ∈ columns, c.size ≠ n) ∧
    (∀ e, build columns n = .error e ↔
      ∃ c, IsFirst (fun c => c.size ≠ n) columns c ∧ e = .rowCountMismatch c.name n c.size) ∧
    (∀ f, build columns n = .ok f ↔ f.columns = columns ∧ f.rowCount = n) ∧
    ∀ f : Frame, f.Readable := by
  refine ⟨?_, fun _ => build_eq_error_iff, fun _ => build_eq_ok_iff, readable⟩
  constructor
  · rintro ⟨e, he⟩
    obtain ⟨c, ⟨hsize, before, after, rfl, -⟩, -⟩ := build_eq_error_iff.mp he
    exact ⟨c, List.mem_append_right _ List.mem_cons_self, hsize⟩
  · rintro ⟨c, hc, hsize⟩
    cases h : build columns n with
    | error e => exact ⟨e, rfl⟩
    | ok f => exact absurd (exists_build_iff.mp ⟨f, h⟩ c hc) hsize

/-- The ragged columns stand behind a good one, and the first of them is reported. -/
example : build [⟨"a", "BOOL", .bool, [.null, .null]⟩, ⟨"b", "BOOL", .bool, [.null]⟩,
    ⟨"b", "BOOL", .bool, []⟩] 2 = .error (.rowCountMismatch "b" 2 1) := rfl

end Frame

end FrameSource
