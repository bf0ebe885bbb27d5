import FrameSource.Proofs.Result.Loading
import FrameSource.Proofs.Time.RoundTrip

/-!
# Frames as documents

A frame can be written as a document, its rows as JSON values (`Frame.toDocument`). In a frame of
standard columns each value is again the value of one cell (`Value.toCell`), which the document spells
unless a floating-point number or a year of more than four digits is in its way.

**A frame can be loaded again** (`decodeMemory_reload`). What was decoded by the standard converters
is decoded once more from the document of the frame, under either policy, with as many rows as it had
also if no column is left.

The document is taken as a value, not as a text: numbers are those that it holds, and what a reader
makes of their digits is not a part of this.
-/

namespace FrameSource

/-- A column as it is named in a document. -/
def FrameColumn.toColumn (column : FrameColumn) : Column :=
  ⟨column.name, column.wireType⟩

/-- A frame as a document. -/
def Frame.toDocument (f : Frame) : ResultDocument where
  columns := f.columns.map FrameColumn.toColumn
  rows := f.rows.map (·.map Value.toJson)

/-- Whether a document keeps a value: it has no floating-point numbers, and the year of an instant
takes four digits there. -/
def Value.isPortable : Value → Bool
  | .timestamp t => t.isValid && 0 ≤ t.utcYear && t.utcYear ≤ 9999
  | .float32 _ => false
  | .float64 _ => false
  | _ => true

/-- The cell that a value was, a timestamp being in UTC. -/
def Value.toCell : Value → Option Cell
  | .bool b => some (.bool b)
  | .int16 n => some (.int16 n)
  | .float32 x => some (.float32 x)
  | .float64 x => some (.float64 x)
  | .timestamp t => some (.timestamp t.utc)
  | .null => none

/-- The cursor over the cells of a frame. -/
def Frame.toCursor (f : Frame) : MemoryCursor :=
  .ofRows (f.columns.map FrameColumn.toColumn) (f.rows.map (·.map Value.toCell))

/-- A value may stand in a column of a field type. -/
def FieldType.Allows (fieldType : FieldType) (v : Value) : Prop :=
  v = .null ∨ fieldType.holds v = true

/-- A column as the standard converter of its wire type makes it. -/
def FrameColumn.IsStandard (column : FrameColumn) : Prop :=
  ∃ c, ConverterRegistry.standard.find? column.wireType = some c ∧
    column.fieldType = c.signature.fieldType ∧
    ∀ v ∈ column.values, c.signature.fieldType.Allows v

/-! ## One value -/

theorem int16?_toInt (n : Int16) : Cell.int16? n.toInt = some n := by
  have hlow := n.le_toInt
  have hhigh := n.toInt_lt
  rw [Cell.int16?, if_pos (by omega), Int16.ofInt_toInt]

/-- A portable value is read back from its JSON form as the cell that it was. -/
theorem ofJson_toJson {c : Converter} (h : c ∈ Converter.standard) {v : Value}
    (hv : c.signature.fieldType.Allows v) (hportable : v.isPortable = true) :
    Cell.ofJson c.signature.wireType v.toJson = .ok v.toCell := by
  rcases hv with rfl | hholds
  · rfl
  · -- Each standard type holds one kind of value; the other kinds are excluded.
    rcases mem_standard.mp h with rfl | rfl | rfl | rfl | rfl <;> cases v <;> cases hholds
    · rfl
    · next n =>
      simp only [Cell.ofJson, Value.toJson, Converter.plain, String.reduceEq, if_true, if_false,
        int16?_toInt, Value.toCell]
    · cases hportable
    · cases hportable
    · next t =>
      simp only [Value.isPortable, Bool.and_eq_true, decide_eq_true_eq] at hportable
      obtain ⟨⟨hvalid, hlow⟩, hhigh⟩ := hportable
      simp only [Cell.ofJson, Value.toJson, String.reduceEq, if_true, if_false,
        Rfc3339.read_writeZulu hvalid ⟨hlow, hhigh⟩, Value.toCell]

/-- A value is read back from its own cell by the converter of its column, if the type of the field
allows it. -/
theorem decode_toCell {c : Converter} (h : c ∈ Converter.standard) {v : Value}
    (hv : c.signature.fieldType.Allows v) :
    c.decode (.shaped c.signature.shape v.toCell) = .ok v := by
  rcases hv with rfl | hholds
  · exact standard_decode_null h
  · rcases mem_standard.mp h with rfl | rfl | rfl | rfl | rfl <;> cases v <;> cases hholds <;> rfl

/-! ## The document of a frame -/

theorem read_toCell {columns : List FrameColumn} {vs : List Value}
    (h : List.Forall₂ (fun column v =>
      Cell.ofJson column.wireType v.toJson = .ok v.toCell) columns vs) :
    Column.Read (columns.map FrameColumn.toColumn) (vs.map Value.toJson)
      (vs.map Value.toCell) where
  width := by rw [List.length_map, List.length_map, h.length_eq]
  cells := by
    induction h with
    | nil => exact .nil
    | cons hread _ ih => exact .cons hread ih

/-- The document of a frame whose values are portable says the cells that the frame has. -/
theorem ofDocument_toDocument {f : Frame} (hstandard : ∀ column ∈ f.columns, column.IsStandard)
    (hportable : ∀ column ∈ f.columns, ∀ v ∈ column.values, v.isPortable = true) :
    MemoryCursor.ofDocument f.toDocument = .ok f.toCursor := by
  rw [MemoryCursor.ofDocument_eq_ok]
  refine ⟨f.rows.map (·.map Value.toCell), ?_, rfl⟩
  show List.Forall₂ _ (f.rows.map (·.map Value.toJson)) _
  rw [List.forall₂_map_left_iff, List.forall₂_map_right_iff, List.forall₂_same]
  intro vs hvs
  obtain ⟨row, _, hrow⟩ := forall₂_exists_left f.forall₂_rows hvs
  apply read_toCell
  refine forall₂_imp_mem hrow ?_
  intro column hcolumn v hv
  have hvalue := List.mem_of_getElem? hv
  obtain ⟨c, hfind, _, hallows⟩ := hstandard column hcolumn
  obtain ⟨hc, htype⟩ := mem_standard_of_find? hfind
  rw [← htype]
  exact ofJson_toJson hc (hallows v hvalue) (hportable column hcolumn v hvalue)

namespace Decode

/-- A kept column of a frame's own cursor is a column of the frame, at its place. -/
structure Kept.Restores (f : Frame) (k : Kept) (column : FrameColumn) : Prop where
  named : k.column = column.toColumn
  placed : f.columns[k.position]? = some column

/-- The cursor of a frame of standard columns keeps all of them. -/
theorem kept_toCursor {f : Frame} (hstandard : ∀ column ∈ f.columns, column.IsStandard) :
    List.Forall₂ (Kept.Restores f) (kept (slotsOf .standard f.toCursor.columns)) f.columns := by
  have hall : ∀ p ∈ f.toCursor.columns.zipIdx, ConverterRegistry.standard.knows p.1 = true := by
    intro p hp
    obtain ⟨column, hcolumn, hp⟩ := List.mem_map.mp (List.fst_mem_of_mem_zipIdx hp)
    obtain ⟨c, hfind, _⟩ := hstandard column hcolumn
    rw [← hp, ConverterRegistry.knows]
    exact Option.isSome_of_eq_some hfind
  have hplaces : List.Forall₂ (fun (p : Column × Nat) column =>
      p.1 = column.toColumn ∧ f.columns[p.2]? = some column)
      ((kept (slotsOf .standard f.toCursor.columns)).map fun k => (k.column, k.position))
      f.columns := by
    rw [map_kept, List.filter_eq_self.mpr hall]
    show List.Forall₂ _ (f.columns.map FrameColumn.toColumn).zipIdx _
    rw [List.zipIdx_map, List.forall₂_map_left_iff]
    refine (forall₂_zipIdx f.columns).imp ?_
    rintro ⟨column, position⟩ _ ⟨rfl, hplace⟩
    exact ⟨rfl, hplace⟩
  rw [List.forall₂_map_left_iff] at hplaces
  exact hplaces.imp fun _ _ h => ⟨h.1, h.2⟩

section Restores

variable {f : Frame} {k : Kept} {column : FrameColumn}

/-- The converter of a kept column is the one that the column of the frame was made by. -/
theorem Kept.Restores.converter (h : k.Restores f column)
    (hk : k ∈ kept (slotsOf .standard f.toCursor.columns)) (hstandard : column.IsStandard) :
    k.converter ∈ Converter.standard ∧ column.fieldType = k.converter.signature.fieldType ∧
      ∀ v ∈ column.values, k.converter.signature.fieldType.Allows v := by
  obtain ⟨c, hfind, hfieldType, hallows⟩ := hstandard
  have hfound := find?_of_mem_kept hk
  rw [h.named] at hfound
  obtain rfl := Option.some.inj (hfound.symm.trans hfind)
  exact ⟨(mem_standard_of_find? hfind).1, hfieldType, hallows⟩

/-- It makes the value of a row again from the cell that the value was. -/
theorem Kept.Restores.readsCell (h : k.Restores f column)
    (hk : k ∈ kept (slotsOf .standard f.toCursor.columns)) (hstandard : column.IsStandard)
    {row : Nat} {vs : List Value}
    (hrow : List.Forall₂ (fun column v => column.values[row]? = some v) f.columns vs) :
    ∃ v, column.values[row]? = some v ∧ k.ReadsCell (vs.map Value.toCell) v := by
  obtain ⟨v, hv, hvalue⟩ := forall₂_getElem? hrow h.placed
  obtain ⟨hmem, _, hallows⟩ := h.converter hk hstandard
  refine ⟨v, hvalue, v.toCell, ?_, ?_⟩
  · rw [List.getElem?_map, hv]
    rfl
  · exact decode_toCell hmem (hallows v (List.mem_of_getElem? hvalue))

theorem Kept.Restores.fills (h : k.Restores f column)
    (hk : k ∈ kept (slotsOf .standard f.toCursor.columns)) (hstandard : column.IsStandard) :
    k.Fills Kept.ReadsCell f.toCursor.rows column where
  name := by rw [h.named, FrameColumn.toColumn]
  wireType := by rw [h.named, FrameColumn.toColumn]
  fieldType := (h.converter hk hstandard).2.1
  values := by
    have hsize : column.values.length = f.rowCount :=
      f.rectangular column (List.mem_of_getElem? h.placed)
    have hvalues := forall₂_range column.values
    rw [hsize] at hvalues
    show List.Forall₂ _ (f.rows.map (·.map Value.toCell)) _
    rw [List.forall₂_map_left_iff]
    refine forall₂_of_common ?_ f.forall₂_rows hvalues
    intro row vs v hrow hv
    obtain ⟨w, hw, hreads⟩ := h.readsCell hk hstandard hrow
    obtain rfl := Option.some.inj (hw.symm.trans hv)
    exact hreads

end Restores

/-- **The cells of a frame decode to the frame.** -/
theorem decodeMemory_toCursor {f : Frame} (hstandard : ∀ column ∈ f.columns, column.IsStandard)
    (policy : UnknownColumnPolicy) : decodeMemory f.toCursor .standard policy = .ok f := by
  have hknown : ∀ column ∈ f.toCursor.columns,
      (ConverterRegistry.standard.find? column.wireType).isSome = true := by
    intro _ hcolumn
    obtain ⟨column, hmem, rfl⟩ := List.mem_map.mp hcolumn
    obtain ⟨c, hfind, _⟩ := hstandard column hmem
    exact Option.isSome_of_eq_some hfind
  have hrestores := kept_toCursor hstandard
  refine decodeMemory_eq_ok (plan_of_known hknown policy) ?_ ?_ ?_
  · apply firstFault?_eq_none rfl
    intro cells hcells
    obtain ⟨vs, hvs, rfl⟩ := List.mem_map.mp hcells
    obtain ⟨row, _, hrow⟩ := forall₂_exists_left f.forall₂_rows hvs
    refine ⟨?_, ?_⟩
    · show (vs.map Value.toCell).length = (f.columns.map FrameColumn.toColumn).length
      rw [List.length_map, List.length_map, hrow.length_eq]
    · intro k hk
      obtain ⟨column, hcolumn, hrestore⟩ := forall₂_exists_right hrestores hk
      obtain ⟨v, _, hv⟩ := hrestore.readsCell hk (hstandard column hcolumn) hrow
      exact ⟨v, hv⟩
  · show f.rowCount = (f.rows.map (·.map Value.toCell)).length
    rw [List.length_map, f.length_rows]
  · refine forall₂_imp_mem hrestores ?_
    intro k hk column hrestore
    exact hrestore.fills hk (hstandard column (List.mem_of_getElem? hrestore.placed))

/-- The columns that the standard registry decodes are standard. -/
theorem isStandard_of_decodeMemory {c : MemoryCursor} {policy : UnknownColumnPolicy} {f : Frame}
    (h : decodeMemory c .standard policy = .ok f) : ∀ column ∈ f.columns, column.IsStandard := by
  intro column hcolumn
  obtain ⟨k, hk, hfills⟩ := forall₂_exists_left (fills_of_decodeMemory h) hcolumn
  have hfind := find?_of_mem_kept hk
  have hregular := isRegular_of_mem_standard (mem_standard_of_find? hfind).1
  rw [← hfills.wireType] at hfind
  refine ⟨k.converter, hfind, hfills.fieldType, ?_⟩
  intro v hv
  obtain ⟨_, _, _, _, hdecode⟩ := forall₂_exists_left hfills.values hv
  exact (hregular.reports hdecode).typed

/-- **A frame can be loaded again.** If the standard registry decodes a frame from rows in memory, and
its values are portable, then the document of the frame is accepted and decodes to the frame. -/
theorem decodeMemory_reload {c : MemoryCursor} {policy : UnknownColumnPolicy} {f : Frame}
    (h : decodeMemory c .standard policy = .ok f)
    (hportable : ∀ column ∈ f.columns, ∀ v ∈ column.values, v.isPortable = true) :
    ∃ loaded, MemoryCursor.ofDocument f.toDocument = .ok loaded ∧
      ∀ policy, decodeMemory loaded .standard policy = .ok f := by
  have hstandard := isStandard_of_decodeMemory h
  refine ⟨f.toCursor, ofDocument_toDocument hstandard hportable, ?_⟩
  intro policy
  exact decodeMemory_toCursor hstandard policy

/-- Rows with a leap second at an offset, the last instant of the year 9999 and the least number, and
with a column that is skipped. -/
def extremes : MemoryCursor :=
  .ofRows [⟨"at", "TIMESTAMP"⟩, ⟨"id", "UUID"⟩, ⟨"n", "INT2"⟩, ⟨"x", "FLOAT8"⟩]
    [[some (.timestamp ⟨⟨1483228799, 1999999999⟩, 19800⟩), some (.text "3f2a"), some (.int16 (-32768)),
        none],
     [some (.timestamp ⟨⟨253402300799, 999999999⟩, 0⟩), none, none, none]]

/-- What is decoded from those rows. -/
def extremesFrame : Frame where
  columns :=
    [⟨"at", "TIMESTAMP", .nullableTime,
        [.timestamp ⟨1483228799, 1999999999⟩, .timestamp ⟨253402300799, 999999999⟩]⟩,
     ⟨"n", "INT2", .int16, [.int16 (-32768), .null]⟩,
     ⟨"x", "FLOAT8", .nullableFloat64, [.null, .null]⟩]
  rowCount := 2
  rectangular := by decide

/-- A leap second, the last instant with a year of four digits, the least narrow integer and nulls
come back as they were. -/
theorem decodeMemory_reload_extremes :
    decodeMemory extremes .standard .skip = .ok extremesFrame ∧
      (∀ column ∈ extremesFrame.columns, ∀ v ∈ column.values, v.isPortable = true) ∧
      extremesFrame.toDocument.rows.map (·.map Json.Value.compact) =
        [["\"2016-12-31T23:59:60.999999999Z\"", "-32768", "null"],
         ["\"9999-12-31T23:59:59.999999999Z\"", "null", "null"]] ∧
      ∃ loaded, MemoryCursor.ofDocument extremesFrame.toDocument = .ok loaded ∧
        ∀ policy, decodeMemory loaded .standard policy = .ok extremesFrame := by
  have hdecode : decodeMemory extremes .standard .skip = .ok extremesFrame := rfl
  have hportable : ∀ column ∈ extremesFrame.columns, ∀ v ∈ column.values,
      v.isPortable = true := by decide
  exact ⟨hdecode, hportable, by decide +kernel, decodeMemory_reload hdecode hportable⟩

end Decode

end FrameSource
