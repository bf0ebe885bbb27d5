import FrameSource.Proofs.Alignment
import FrameSource.Result.Decode

/-!
# The columns that are kept

What the parts of a decoding do, each said once. A plan is the columns with the converters that the
registry has for them, unless the policy refuses the first one it has none for (`plan_eq`). The
columns that have one are the `kept` ones; a `Kept` column remembers its position among all columns,
because targets are positional and skipped columns have one too. A row of targets converts to the
values of the kept columns, or is refused by the leftmost of them that rejects its cell
(`convertRow_cases`).

**The values of a frame are the rows' values, turned** (`assemble_of_reads`): every row has one
value for each kept column, so the columns are as long as there are rows and the frame is a
rectangle. A row of the frame is there again, with what the kept columns read in it
(`Frame.row?_of_fills`).
-/

namespace FrameSource.Decode

/-! ## The plan -/

/-- The columns with the converters that a registry has for them. -/
def slotsOf (registry : ConverterRegistry) (columns : List Column) : List Slot :=
  columns.map fun column => ⟨column, registry.find? column.wireType⟩

/-- The leftmost column whose type a registry has no converter for. -/
def unknown? (registry : ConverterRegistry) (columns : List Column) : Option Column :=
  columns.find? fun column => (registry.find? column.wireType).isNone

/-- The error of a policy that refuses unknown types; it names the leftmost column of one. -/
def unknownType? (registry : ConverterRegistry) (policy : UnknownColumnPolicy)
    (columns : List Column) : Option DecodeError :=
  match policy with
  | .skip => none
  | .fail => (unknown? registry columns).map fun column => .unknownType column.name column.wireType

/-- A plan refuses an unknown type if the policy does, and nothing else. -/
theorem plan_eq (registry : ConverterRegistry) (policy : UnknownColumnPolicy)
    (columns : List Column) :
    plan registry policy columns =
      match unknownType? registry policy columns with
      | some e => .error e
      | none => .ok (slotsOf registry columns) := by
  induction columns with
  | nil => cases policy <;> rfl
  | cons column columns ih =>
    cases hfind : registry.find? column.wireType with
    | none =>
      cases policy with
      | fail => simp [plan, unknownType?, unknown?, hfind]
      | skip =>
        simp only [plan, hfind, ih, slotsOf, List.map_cons]
        rfl
    | some converter =>
      have hunknown : unknown? registry (column :: columns) = unknown? registry columns := by
        simp [unknown?, hfind]
      have hrest : unknownType? registry policy (column :: columns) =
          unknownType? registry policy columns := by
        cases policy with
        | skip => rfl
        | fail => rw [unknownType?, hunknown, unknownType?]
      rw [hrest]
      simp only [plan, hfind, ih, slotsOf, List.map_cons]
      cases unknownType? registry policy columns <;> rfl

/-- Where every type is known, no policy refuses anything. -/
theorem plan_of_known {registry : ConverterRegistry} {columns : List Column}
    (h : ∀ column ∈ columns, (registry.find? column.wireType).isSome = true)
    (policy : UnknownColumnPolicy) :
    plan registry policy columns = .ok (slotsOf registry columns) := by
  have hunknown : unknown? registry columns = none := by
    rw [unknown?, List.find?_eq_none]
    intro column hcolumn
    rw [← Option.not_isSome, h column hcolumn]
    decide
  rw [plan_eq]
  cases policy with
  | skip => rfl
  | fail =>
    rw [unknownType?, hunknown]
    rfl

/-- Registries that know the same types refuse the same columns. -/
theorem unknownType?_congr {registry registry' : ConverterRegistry}
    (h : ∀ wireType, (registry.find? wireType).isSome = (registry'.find? wireType).isSome)
    (policy : UnknownColumnPolicy) (columns : List Column) :
    unknownType? registry policy columns = unknownType? registry' policy columns := by
  have hunknown : unknown? registry columns = unknown? registry' columns := by
    rw [unknown?, unknown?]
    congr 1
    funext column
    rw [← Option.not_isSome, ← Option.not_isSome, h]
  unfold unknownType?
  rw [hunknown]

/-- A plan names the unknown column that it refuses, or has a slot for every column. -/
theorem plan_cases (registry : ConverterRegistry) (policy : UnknownColumnPolicy)
    (columns : List Column) :
    (∃ column : Column, plan registry policy columns =
      .error (.unknownType column.name column.wireType)) ∨
    plan registry policy columns = .ok (slotsOf registry columns) := by
  rw [plan_eq]
  cases policy with
  | skip => exact Or.inr rfl
  | fail =>
    rw [unknownType?]
    cases unknown? registry columns with
    | none => exact Or.inr rfl
    | some column => exact Or.inl ⟨column, rfl⟩

/-! ## Kept columns -/

/-- A column that is kept: its position among all columns, and its converter. -/
structure Kept where
  position : Nat
  column : Column
  converter : Converter

/-- The columns that are kept, in order. -/
def kept (slots : List Slot) : List Kept :=
  slots.zipIdx.filterMap fun s => s.1.converter.map fun converter => ⟨s.2, s.1.column, converter⟩

namespace Kept

/-- The same column with one more in front of it. -/
def shift (k : Kept) : Kept := { k with position := k.position + 1 }

/-- In a row of targets, the cell of the column is the value. -/
def Reads (k : Kept) (targets : List ScanTarget) (v : Value) : Prop :=
  ∃ target, targets[k.position]? = some target ∧ k.converter.decode target.cell = .ok v

/-- The error of a row of targets in which the converter rejects the cell of the column. -/
def refusal? (row : Nat) (targets : List ScanTarget) (k : Kept) : Option DecodeError :=
  match targets[k.position]? with
  | none => none
  | some target =>
    match k.converter.decode target.cell with
    | .ok _ => none
    | .error cause => some (.convert k.column.name row cause)

/-- A column of a frame is the kept column, with the values that it reads from rows of some kind. -/
structure Fills {τ : Type} (reads : Kept → τ → Value → Prop) (rows : List τ) (k : Kept)
    (c : FrameColumn) : Prop where
  name : c.name = k.column.name
  wireType : c.wireType = k.column.wireType
  fieldType : c.fieldType = k.converter.signature.fieldType
  values : List.Forall₂ (reads k) rows c.values

/-- The column of a frame, given its values. -/
def frameColumn (k : Kept) (values : List Value) : FrameColumn :=
  ⟨k.column.name, k.column.wireType, k.converter.signature.fieldType, values⟩

theorem reads_shift (k : Kept) (t : ScanTarget) (ts : List ScanTarget) :
    k.shift.Reads (t :: ts) = k.Reads ts := rfl

/-- A refusal names the column and the row. -/
theorem eq_of_refusal? {row : Nat} {targets : List ScanTarget} {k : Kept} {e : DecodeError}
    (h : k.refusal? row targets = some e) : ∃ cause, e = .convert k.column.name row cause := by
  unfold refusal? at h
  split at h
  · cases h
  · split at h
    · cases h
    · next cause _ => exact ⟨cause, (Option.some.inj h).symm⟩

end Kept

/-- A column that is skipped leaves no trace but its place: the later columns keep counting it. -/
theorem kept_cons (slot : Slot) (slots : List Slot) :
    kept (slot :: slots) =
      (slot.converter.map fun converter => (⟨0, slot.column, converter⟩ : Kept)).toList ++
        (kept slots).map Kept.shift := by
  have hrest : (slots.zipIdx 1).filterMap (fun s => s.1.converter.map fun converter =>
      (⟨s.2, s.1.column, converter⟩ : Kept)) = (kept slots).map Kept.shift := by
    rw [List.zipIdx_succ, List.filterMap_map, kept, List.map_filterMap]
    congr 1
    funext s
    cases h : s.1.converter <;> simp [h, Kept.shift]
  rw [kept, List.zipIdx_cons, List.filterMap_cons, hrest]
  cases slot.converter <;> rfl

/-- A kept column stands at its position among all columns, with its converter. -/
theorem getElem?_of_mem_kept {slots : List Slot} {k : Kept} (h : k ∈ kept slots) :
    slots[k.position]? = some ⟨k.column, some k.converter⟩ := by
  obtain ⟨⟨⟨column, converter⟩, position⟩, hmem, hk⟩ := List.mem_filterMap.mp h
  obtain ⟨converter, rfl, rfl⟩ := Option.map_eq_some_iff.mp hk
  exact List.mem_zipIdx_iff_getElem?.mp hmem

theorem length_kept (slots : List Slot) :
    (kept slots).length = (slots.filter (·.converter.isSome)).length := by
  induction slots with
  | nil => rfl
  | cons slot slots ih =>
    rw [kept_cons]
    cases h : slot.converter <;> simp [h, ih, Nat.add_comm]

/-- A row of targets converts to a value for each kept column, unless one rejects its cell; the
leftmost one that does decides. -/
theorem convertRow_cases (row : Nat) {slots : List Slot} {targets : List ScanTarget}
    (h : slots.length = targets.length) :
    match convertRow row slots targets with
    | .error e => (kept slots).findSome? (Kept.refusal? row targets) = some e
    | .ok values => (kept slots).findSome? (Kept.refusal? row targets) = none ∧
        List.Forall₂ (fun k v => k.Reads targets v) (kept slots) values := by
  -- Along the columns: the kept ones behind the first are those of the rest, moved by one place.
  induction slots generalizing targets with
  | nil =>
    cases targets with
    | nil => exact ⟨rfl, .nil⟩
    | cons _ _ => cases h
  | cons slot slots ih =>
    cases targets with
    | nil => cases h
    | cons target targets =>
      have hrest := ih (Nat.succ.inj h)
      obtain ⟨column, converter⟩ := slot
      have hshift : ((kept slots).map Kept.shift).findSome?
          (Kept.refusal? row (target :: targets)) =
            (kept slots).findSome? (Kept.refusal? row targets) := by
        rw [List.findSome?_map]
        rfl
      cases converter with
      | none =>
        simp only [convertRow, kept_cons, Option.map_none, Option.toList_none, List.nil_append,
          hshift, List.forall₂_map_left_iff, Kept.reads_shift]
        exact hrest
      | some converter =>
        simp only [convertRow, kept_cons, Option.map_some, Option.toList_some,
          List.cons_append, List.nil_append, List.findSome?_cons, hshift]
        cases hd : converter.decode target.cell with
        | error cause => simp [Kept.refusal?, hd]
        | ok value =>
          have hfirst : Kept.refusal? row (target :: targets) ⟨0, column, converter⟩ = none := by
            simp [Kept.refusal?, hd]
          -- The rest is converted before the first value is put in front, so its error comes
          -- through.
          cases hr : convertRow row slots targets with
          | error e =>
            rw [hr] at hrest
            simp only [hfirst]
            exact hrest
          | ok values =>
            rw [hr] at hrest
            simp only [hfirst]
            refine ⟨hrest.1, .cons ⟨target, rfl, hd⟩ ?_⟩
            rw [List.forall₂_map_left_iff]
            exact hrest.2

/-- A row is refused for a column of it. -/
theorem eq_of_convertRow_error {row : Nat} {slots : List Slot} {targets : List ScanTarget}
    {e : DecodeError} (h : slots.length = targets.length)
    (he : convertRow row slots targets = .error e) :
    ∃ column cause, e = .convert column row cause := by
  have hrow := convertRow_cases row h
  rw [he] at hrow
  obtain ⟨k, _, hk⟩ := List.exists_of_findSome?_eq_some hrow
  obtain ⟨cause, rfl⟩ := Kept.eq_of_refusal? hk
  exact ⟨k.column.name, cause, rfl⟩

/-! ## From rows to columns -/

/-- A relation that holds along every row holds along every column. -/
theorem forall₂_transpose {κ τ : Type} {R : κ → τ → Value → Prop} {ks : List κ} {ts : List τ}
    {rows : List (List Value)}
    (h : List.Forall₂ (fun t values => List.Forall₂ (fun k v => R k t v) ks values) ts rows) :
    List.Forall₂ (fun k column => List.Forall₂ (R k) ts column) ks
      (transpose ks.length rows) := by
  induction h with
  | nil =>
    simp only [transpose, List.foldr_nil]
    induction ks with
    | nil => exact .nil
    | cons k ks ih => exact .cons .nil ih
  | @cons t values ts rows hrow hrows ih =>
    clear hrows
    show List.Forall₂ _ ks (List.zipWith List.cons values (transpose ks.length rows))
    generalize transpose ks.length rows = columns at ih
    induction hrow generalizing columns with
    | nil => exact .nil
    | cons hv _ ihrow =>
      cases ih with
      | cons hcolumn hcolumns => exact .cons (.cons hv hcolumn) (ihrow _ hcolumns)

/-- The columns of a frame are the kept columns with the values that they are given. -/
theorem frameColumns_eq (slots : List Slot) (columns : List (List Value)) :
    frameColumns slots columns = List.zipWith Kept.frameColumn (kept slots) columns := by
  induction slots generalizing columns with
  | nil => rfl
  | cons slot slots ih =>
    have hshift : ∀ columns, List.zipWith Kept.frameColumn ((kept slots).map Kept.shift) columns =
        List.zipWith Kept.frameColumn (kept slots) columns := by
      intro columns
      rw [List.zipWith_map_left]
      rfl
    obtain ⟨column, converter⟩ := slot
    rw [kept_cons]
    cases converter with
    | none =>
      simp only [frameColumns, Option.map_none, Option.toList_none, List.nil_append, hshift, ih]
    | some converter =>
      cases columns with
      | nil => simp [frameColumns]
      | cons values columns =>
        simp only [frameColumns, Option.map_some, Option.toList_some, List.cons_append,
          List.nil_append, List.zipWith_cons_cons, hshift, ih]
        rfl

/-- Columns of the given size make up a frame, with nothing changed about them. -/
theorem build_of_size {columns : List FrameColumn} {n : Nat} (h : ∀ c ∈ columns, c.size = n) :
    ∃ f, Frame.build columns n = .ok f ∧ f.columns = columns ∧ f.rowCount = n := by
  unfold Frame.build
  split
  · rename_i c hc
    have hsize : c.size ≠ n := by simpa using List.find?_some hc
    exact absurd (h c (List.mem_of_find?_eq_some hc)) hsize
  · exact ⟨_, rfl, rfl, rfl⟩

/-- **Rows that have a value for each kept column make a frame**: it has as many rows, and its
columns are the kept ones with the values that they have in the rows. -/
theorem assemble_of_reads {τ : Type} {reads : Kept → τ → Value → Prop} {slots : List Slot}
    {ts : List τ} {rows : List (List Value)}
    (h : List.Forall₂ (fun t values => List.Forall₂ (fun k v => reads k t v) (kept slots) values)
      ts rows) :
    ∃ f, assemble slots rows = .ok f ∧ f.rowCount = rows.length ∧
      List.Forall₂ (Kept.Fills reads ts) (kept slots) f.columns := by
  have hcolumns := forall₂_transpose h
  rw [length_kept] at hcolumns
  have hfills : List.Forall₂ (Kept.Fills reads ts) (kept slots)
      (frameColumns slots (transpose (slots.filter (·.converter.isSome)).length rows)) := by
    rw [frameColumns_eq]
    generalize transpose _ rows = columns at hcolumns ⊢
    generalize kept slots = ks at hcolumns ⊢
    induction hcolumns with
    | nil => exact .nil
    | cons hvalues _ ih => exact .cons ⟨rfl, rfl, rfl, hvalues⟩ ih
  have hsize : ∀ c ∈ frameColumns slots
      (transpose (slots.filter (·.converter.isSome)).length rows), c.size = rows.length := by
    intro c hc
    obtain ⟨k, _, hk⟩ := forall₂_exists_left hfills hc
    exact hk.values.length_eq.symm.trans h.length_eq
  obtain ⟨f, hbuild, hcols, hrows⟩ := build_of_size hsize
  exact ⟨f, hbuild, hrows, hcols ▸ hfills⟩

end FrameSource.Decode

namespace FrameSource

/-! ## The rows of a frame -/

namespace Frame

/-- Every row of a frame is there, with the value of each column. -/
theorem exists_row? (f : Frame) {row : Nat} (h : row < f.rowCount) :
    ∃ vs, f.row? row = some vs := by
  rw [row?, if_pos h]
  apply exists_mapM
  intro column hcolumn
  have hsize : row < column.values.length := by
    rw [show column.values.length = f.rowCount from f.rectangular column hcolumn]
    exact h
  exact ⟨_, List.getElem?_eq_getElem hsize⟩

/-- The entries of a row are those of the columns. -/
theorem forall₂_row? {f : Frame} {row : Nat} {values : List Value}
    (h : f.row? row = some values) :
    List.Forall₂ (fun column v => column.get? row = some v) f.columns values := by
  rw [row?] at h
  split at h
  · exact forall₂_of_mapM h
  · cases h

/-- The list of the rows has each row at its number. -/
theorem forall₂_range_rows (f : Frame) :
    List.Forall₂ (fun row vs => f.row? row = some vs) (List.range f.rowCount) f.rows :=
  forall₂_filterMap fun _ hrow => f.exists_row? (List.mem_range.mp hrow)

/-- The rows of a frame are its columns, turned. -/
theorem forall₂_rows (f : Frame) :
    List.Forall₂ (fun row vs =>
      List.Forall₂ (fun column v => column.values[row]? = some v) f.columns vs)
      (List.range f.rowCount) f.rows :=
  f.forall₂_range_rows.imp fun _ _ h => forall₂_row? h

/-- A frame has as many rows as it counts, also where it has no columns. -/
theorem length_rows (f : Frame) : f.rows.length = f.rowCount := by
  rw [← f.forall₂_rows.length_eq, List.length_range]

/-- **A row of a frame is what its columns read in that row.** -/
theorem row?_of_fills {τ : Type} {reads : Decode.Kept → τ → Value → Prop} {ts : List τ}
    {ks : List Decode.Kept} (f : Frame) (h : List.Forall₂ (Decode.Kept.Fills reads ts) ks f.columns)
    {row : Nat} (hrow : row < f.rowCount) {t : τ} (ht : ts[row]? = some t) :
    ∃ values, f.row? row = some values ∧ List.Forall₂ (fun k v => reads k t v) ks values := by
  obtain ⟨values, hvalues⟩ := f.exists_row? hrow
  refine ⟨values, hvalues, ?_⟩
  rw [row?, if_pos hrow] at hvalues
  refine forall₂_of_common ?_ h.flip (forall₂_of_mapM hvalues)
  intro column k v hfills hv
  obtain ⟨w, hw, hreads⟩ := forall₂_getElem? hfills.values ht
  obtain rfl := Option.some.inj (hw.symm.trans hv)
  exact hreads

/-- Rows count also where no column is left. -/
example : (Frame.mk [] 2 nofun).rows = [[], []] := rfl

end Frame

end FrameSource
