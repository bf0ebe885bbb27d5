import FrameSource.Proofs.Result.Selection
import FrameSource.Proofs.Result.Typed
import FrameSource.Result.Document

/-!
# Loading result documents

What the cells of a document become when they are decoded. A document is loaded exactly if each row
has a cell for each column that can be read by the column's wire type (`ofDocument_eq_ok`), and in a
column of a standard type such a cell is of the kind that the standard converter of that type accepts
(`standard_becomes`): the two tables of wire types agree.

**A loaded document decodes** (`decodeMemory_loaded`). Under the policy to skip there is always a
frame, and under the other one nothing but an unknown type is in its way. The frame has the columns
of the standard types, with null exactly where the document has it.
-/

namespace FrameSource

/-- The wire types of the standard converters. -/
def standardTypes : List String := ["BOOL", "INT2", "FLOAT4", "FLOAT8", "TIMESTAMP"]

/-- The columns of standard types, with their positions in the document. -/
def ResultDocument.standing (d : ResultDocument) : List (Column × Nat) :=
  d.columns.zipIdx.filter fun c => c.1.wireType ∈ standardTypes

/-- A frame holds the columns of a document that have a standard type, each with as many values as
the document has rows, and null where the document has null at the position of the column. -/
structure ResultDocument.Loads (d : ResultDocument) (f : Frame) : Prop where
  rowCount : f.rowCount = d.rows.length
  columns : List.Forall₂ (fun (c : Column × Nat) (column : FrameColumn) =>
    column.name = c.1.name ∧ column.wireType = c.1.wireType ∧
      List.Forall₂ (fun vs v => ∃ json, vs[c.2]? = some json ∧ (v = .null ↔ json = .null)) d.rows
        column.values) d.standing f.columns

/-- The value that an item of a document becomes in a column of a wire type. -/
inductive Json.Value.Becomes (wireType : String) : Json.Value → FrameSource.Value → Prop where
  | null : Becomes wireType .null .null
  | cell {item : Json.Value} {cell : Cell} {v : FrameSource.Value}
      (hread : Cell.ofJson wireType item = .ok (some cell)) (hvalue : cell.value? = some v) :
      Becomes wireType item v

/-- A frame holds what the items of a document become, in the columns of standard types. -/
structure ResultDocument.Yields (d : ResultDocument) (f : Frame) : Prop where
  rowCount : f.rowCount = d.rows.length
  columns : List.Forall₂ (fun (c : Column × Nat) (column : FrameColumn) =>
    column.name = c.1.name ∧ column.wireType = c.1.wireType ∧
      List.Forall₂ (fun vs v => ∃ item, vs[c.2]? = some item ∧ item.Becomes c.1.wireType v) d.rows
        column.values) d.standing f.columns

/-! ## Documents that are loaded -/

/-- A row of cells is read from a row of a document, by the wire types of the columns. -/
structure Column.Read (columns : List Column) (vs : List Json.Value) (cells : List (Option Cell)) :
    Prop where
  width : vs.length = columns.length
  cells : List.Forall₂ (fun (item : Column × Json.Value) cell =>
    Cell.ofJson item.1.wireType item.2 = .ok cell) (columns.zip vs) cells

namespace Column.Read

variable {columns : List Column} {vs : List Json.Value} {cells : List (Option Cell)}

theorem length_eq (h : Read columns vs cells) : cells.length = columns.length := by
  rw [← h.cells.length_eq, List.length_zip, h.width, Nat.min_self]

/-- The cell of a column is read from the item at its position. -/
theorem getElem? (h : Read columns vs cells) {position : Nat} {column : Column}
    (hcolumn : columns[position]? = some column) :
    ∃ json cell, vs[position]? = some json ∧ cells[position]? = some cell ∧
      Cell.ofJson column.wireType json = .ok cell := by
  obtain ⟨hlt, _⟩ := List.getElem?_eq_some_iff.mp hcolumn
  obtain ⟨json, hjson⟩ : ∃ json, vs[position]? = some json :=
    ⟨_, List.getElem?_eq_getElem (h.width ▸ hlt)⟩
  have hitem : (columns.zip vs)[position]? = some (column, json) :=
    List.getElem?_zip_eq_some.mpr ⟨hcolumn, hjson⟩
  obtain ⟨cell, hcell, hread⟩ := forall₂_getElem? h.cells hitem
  exact ⟨json, cell, hjson, hcell, hread⟩

end Column.Read

/-- A sequence of two steps succeeds if both do. -/
theorem bind_eq_ok {ε α β : Type} {x : Except ε α} {f : α → Except ε β} {b : β} :
    (x >>= f) = .ok b ↔ ∃ a, x = .ok a ∧ f a = .ok b := by
  cases x with
  | error e => exact ⟨nofun, fun ⟨_, h, _⟩ => nomatch h⟩
  | ok a => exact ⟨fun h => ⟨a, rfl, h⟩, fun ⟨_, h, hf⟩ => Except.ok.inj h ▸ hf⟩

namespace MemoryCursor

variable {columns : List Column} {row : Nat}

/-- The cells of a row are read one by one. -/
theorem documentCells_eq_ok {vs : List Json.Value} {cells : List (Option Cell)}
    (h : vs.length = columns.length) :
    documentCells row columns vs = .ok cells ↔
      List.Forall₂ (fun (item : Column × Json.Value) cell =>
        Cell.ofJson item.1.wireType item.2 = .ok cell) (columns.zip vs) cells := by
  induction columns generalizing vs cells with
  | nil =>
    rw [List.zip_nil_left, List.forall₂_nil_left_iff]
    exact ⟨fun h => (Except.ok.inj h).symm, fun h => h ▸ rfl⟩
  | cons column columns ih =>
    cases vs with
    | nil => cases h
    | cons json vs =>
      have hrest := @ih vs
      rw [documentCells, List.zip_cons_cons, List.forall₂_cons_left_iff]
      cases Cell.ofJson column.wireType json with
      | error reason => exact ⟨nofun, fun ⟨_, _, hread, _⟩ => nomatch hread⟩
      | ok cell =>
        show (documentCells row columns vs >>= fun more => .ok (cell :: more)) = .ok cells ↔ _
        rw [bind_eq_ok]
        constructor
        · rintro ⟨more, hmore, hcells⟩
          exact ⟨cell, more, rfl, (hrest (Nat.succ.inj h)).mp hmore, (Except.ok.inj hcells).symm⟩
        · rintro ⟨cell', more, hread, hmore, rfl⟩
          obtain rfl := Except.ok.inj hread
          exact ⟨more, (hrest (Nat.succ.inj h)).mpr hmore, rfl⟩

/-- A row is taken if it is as wide as the columns and every item of it is read. -/
theorem documentRow_eq_ok {vs : List Json.Value} {cells : List (Option Cell)} :
    documentRow columns row vs = .ok cells ↔ Column.Read columns vs cells := by
  rw [documentRow]
  split
  · next hwidth =>
    rw [documentCells_eq_ok hwidth]
    exact ⟨fun h => ⟨hwidth, h⟩, fun h => h.cells⟩
  · next hwidth => exact ⟨nofun, fun h => absurd h.width hwidth⟩

/-- The rows of a document are taken if each of them is; there is no condition between rows. -/
theorem documentRows_eq_ok {all : List (List Json.Value)} {rows : List (List (Option Cell))} :
    documentRows columns row all = .ok rows ↔ List.Forall₂ (Column.Read columns) all rows := by
  induction all generalizing row rows with
  | nil =>
    rw [List.forall₂_nil_left_iff]
    exact ⟨fun h => (Except.ok.inj h).symm, fun h => h ▸ rfl⟩
  | cons vs all ih =>
    rw [documentRows, List.forall₂_cons_left_iff, bind_eq_ok]
    constructor
    · rintro ⟨cells, hcells, hrest⟩
      obtain ⟨more, hmore, hrows⟩ := bind_eq_ok.mp hrest
      exact ⟨cells, more, documentRow_eq_ok.mp hcells, ih.mp hmore, (Except.ok.inj hrows).symm⟩
    · rintro ⟨cells, more, hread, hmore, rfl⟩
      exact ⟨cells, documentRow_eq_ok.mpr hread, bind_eq_ok.mpr ⟨more, ih.mpr hmore, rfl⟩⟩

/-- **A document is loaded exactly if its rows can be read**, and the cursor serves what is read. -/
theorem ofDocument_eq_ok {d : ResultDocument} {c : MemoryCursor} :
    ofDocument d = .ok c ↔
      ∃ rows, List.Forall₂ (Column.Read d.columns) d.rows rows ∧ c = ofRows d.columns rows := by
  rw [ofDocument, bind_eq_ok]
  constructor
  · rintro ⟨rows, hrows, hc⟩
    exact ⟨rows, documentRows_eq_ok.mp hrows, (Except.ok.inj hc).symm⟩
  · rintro ⟨rows, hread, rfl⟩
    exact ⟨rows, documentRows_eq_ok.mpr hread, rfl⟩

end MemoryCursor

/-! ## The two tables of wire types -/

/-- What is read in a column of a standard type is null, or a cell that its field type accepts. -/
theorem ofJson_standard {c : Converter} (h : c ∈ Converter.standard) {json : Json.Value}
    {cell? : Option Cell} (hread : Cell.ofJson c.signature.wireType json = .ok cell?) :
    (json = .null ∧ cell? = none) ∨
      (json ≠ .null ∧ ∃ cell v, cell? = some cell ∧ c.signature.fieldType.accept cell = some v) := by
  unfold Cell.ofJson at hread
  split at hread
  · exact Or.inl ⟨rfl, (Except.ok.inj hread).symm⟩
  · next hnull =>
    refine Or.inr ⟨hnull, ?_⟩
    -- Each standard type has a branch of its own there, in which items of other kinds are refused.
    have read : ∀ cell v, Except.ok (some cell) = (.ok cell? : Except (Option Rfc3339.Fault) _) →
        c.signature.fieldType.accept cell = some v →
        ∃ cell v, cell? = some cell ∧ c.signature.fieldType.accept cell = some v :=
      fun cell v hcell haccept => ⟨cell, v, (Except.ok.inj hcell).symm, haccept⟩
    rcases mem_standard.mp h with rfl | rfl | rfl | rfl | rfl <;>
      simp only [Converter.plain, String.reduceEq, if_true, if_false] at hread
    · split at hread
      · exact read _ _ hread rfl
      · cases hread
    · split at hread
      · split at hread
        · exact read _ _ hread rfl
        · cases hread
      · cases hread
    · split at hread
      · exact read _ _ hread rfl
      · cases hread
    · split at hread
      · exact read _ _ hread rfl
      · cases hread
    · split at hread
      · split at hread
        · exact read _ _ hread rfl
        · cases hread
      · split at hread
        · exact read _ _ hread rfl
        · cases hread
      · cases hread

/-- A standard converter takes null for null. -/
theorem standard_decode_null {c : Converter} (h : c ∈ Converter.standard) :
    c.decode (.shaped c.signature.shape none) = .ok .null := by
  rcases mem_standard.mp h with rfl | rfl | rfl | rfl | rfl <;> rfl

/-- A standard converter takes every cell that its field type accepts. -/
theorem standard_decode_accepted {c : Converter} (h : c ∈ Converter.standard) {cell : Cell}
    {v : Value} (haccept : c.signature.fieldType.accept cell = some v) :
    c.decode (.shaped c.signature.shape (some cell)) = .ok v := by
  rcases mem_standard.mp h with rfl | rfl | rfl | rfl | rfl <;> cases cell <;> cases haccept <;> rfl

/-- **The tables agree.** A cell that is read in a column of a standard type converts to its value. -/
theorem standard_becomes {c : Converter} (h : c ∈ Converter.standard) {item : Json.Value}
    {cell? : Option Cell} (hread : Cell.ofJson c.signature.wireType item = .ok cell?) :
    ∃ v, c.decode (.shaped c.signature.shape cell?) = .ok v ∧
      item.Becomes c.signature.wireType v := by
  rcases ofJson_standard h hread with ⟨rfl, rfl⟩ | ⟨_, cell, v, rfl, haccept⟩
  · exact ⟨.null, standard_decode_null h, .null⟩
  · have hreports := Value.Reports.accepted haccept
    obtain ⟨_, ⟨⟩, hvalue⟩ := hreports.same (mt hreports.null.mp nofun)
    exact ⟨v, standard_decode_accepted h haccept, .cell hread hvalue⟩

/-- An item becomes null only if it is null. -/
theorem Json.Value.Becomes.null_iff {wireType : String} {item : Json.Value}
    {v : FrameSource.Value} (h : item.Becomes wireType v) : v = .null ↔ item = .null := by
  cases h with
  | null => exact iff_of_true rfl rfl
  | @cell _ cell _ hread hvalue =>
    refine iff_of_false ?_ ?_
    · rintro rfl
      cases cell <;> cases hvalue
    · rintro rfl
      cases hread

/-- The standard registry has a converter for each standard type and for no other. -/
theorem isSome_find?_standard (wireType : String) :
    (ConverterRegistry.standard.find? wireType).isSome = decide (wireType ∈ standardTypes) := by
  rw [Bool.eq_iff_iff, decide_eq_true_iff, Option.isSome_iff_exists]
  constructor
  · rintro ⟨c, hc⟩
    obtain ⟨hmem, rfl⟩ := mem_standard_of_find? hc
    rcases mem_standard.mp hmem with rfl | rfl | rfl | rfl | rfl <;> decide
  · intro h
    simp only [standardTypes, List.mem_cons, List.not_mem_nil, or_false] at h
    rcases h with rfl | rfl | rfl | rfl | rfl <;> exact ⟨_, rfl⟩

namespace Decode

/-! ## Decoding what was loaded -/

/-- The kept columns are the columns of known types, at their positions. -/
theorem map_kept (registry : ConverterRegistry) (columns : List Column) :
    (kept (slotsOf registry columns)).map (fun k => (k.column, k.position)) =
      columns.zipIdx.filter fun c => registry.knows c.1 := by
  rw [kept, slotsOf, List.zipIdx_map, List.map_filterMap, List.filterMap_map,
    ← List.filterMap_eq_filter]
  congr 1
  funext c
  cases hfind : registry.find? c.1.wireType <;>
    simp [ConverterRegistry.knows, Option.guard, hfind]

/-- In a row of a document, the value of a kept column is what the item at its position becomes. -/
theorem Kept.exists_readsCell {columns : List Column} {k : Kept}
    (hk : k ∈ kept (slotsOf .standard columns)) {vs : List Json.Value}
    {cells : List (Option Cell)} (h : Column.Read columns vs cells) :
    ∃ item v, vs[k.position]? = some item ∧ k.ReadsCell cells v ∧
      item.Becomes k.column.wireType v := by
  have hslot := getElem?_of_mem_kept hk
  rw [slotsOf, List.getElem?_map] at hslot
  obtain ⟨column, hcolumn, hsame⟩ := Option.map_eq_some_iff.mp hslot
  obtain ⟨rfl, hfind⟩ := Slot.mk.inj hsame
  obtain ⟨hmem, htype⟩ := mem_standard_of_find? hfind
  obtain ⟨item, cell?, hitem, hcell, hread⟩ := h.getElem? hcolumn
  rw [← htype] at hread ⊢
  obtain ⟨v, hv, hbecomes⟩ := standard_becomes hmem hread
  exact ⟨item, v, hitem, ⟨cell?, hcell, hv⟩, hbecomes⟩

/-- Every fetch from a loaded document delivers a row, and every row converts. -/
theorem firstFault?_loaded {d : ResultDocument} {rows : List (List (Option Cell))}
    (h : List.Forall₂ (Column.Read d.columns) d.rows rows) :
    firstFault? (.ofRows d.columns rows) (kept (slotsOf .standard d.columns)) 0 = none := by
  apply firstFault?_eq_none rfl
  intro cells hcells
  obtain ⟨vs, _, hread⟩ := forall₂_exists_left h hcells
  refine ⟨hread.length_eq, ?_⟩
  intro k hk
  obtain ⟨_, v, _, hv, _⟩ := Kept.exists_readsCell hk hread
  exact ⟨v, hv⟩

/-- A column that is filled by the cells of a document has what its items become. -/
theorem Kept.Fills.becomes {d : ResultDocument} {rows : List (List (Option Cell))}
    (h : List.Forall₂ (Column.Read d.columns) d.rows rows) {k : Kept}
    (hk : k ∈ kept (slotsOf .standard d.columns)) {column : FrameColumn}
    (hfills : k.Fills Kept.ReadsCell rows column) :
    List.Forall₂ (fun vs v => ∃ item, vs[k.position]? = some item ∧
      item.Becomes k.column.wireType v) d.rows column.values := by
  refine forall₂_of_common ?_ h.flip hfills.values
  intro cells vs v hread hv
  obtain ⟨item, w, hitem, hw, hbecomes⟩ := Kept.exists_readsCell hk hread
  obtain rfl := k.rightUnique_readsCell hw hv
  exact ⟨item, hitem, hbecomes⟩

/-- The kept columns are those of standard types. -/
theorem map_kept_standard (columns : List Column) :
    (kept (slotsOf .standard columns)).map (fun k => (k.column, k.position)) =
      columns.zipIdx.filter fun c => c.1.wireType ∈ standardTypes := by
  rw [map_kept]
  congr 1
  funext c
  exact isSome_find?_standard c.1.wireType

/-- The rows that were read decode to one frame, if the policy allows it at all. -/
theorem exists_frame_yields {d : ResultDocument} {rows : List (List (Option Cell))}
    (h : List.Forall₂ (Column.Read d.columns) d.rows rows) :
    ∃ f, d.Yields f ∧ ∀ policy,
      plan .standard policy d.columns = .ok (slotsOf .standard d.columns) →
        decodeMemory (.ofRows d.columns rows) .standard policy = .ok f := by
  have hfault := firstFault?_loaded h
  obtain ⟨f, _, hrows, hcolumns⟩ := exists_frame (c := .ofRows d.columns rows)
    (plan_skip .standard d.columns) hfault
  refine ⟨f, ⟨hrows.trans h.length_eq.symm, ?_⟩, ?_⟩
  · rw [ResultDocument.standing, ← map_kept_standard, List.forall₂_map_left_iff]
    refine forall₂_imp_mem hcolumns ?_
    intro k hk column hfills
    exact ⟨hfills.name, hfills.wireType, hfills.becomes h hk⟩
  · intro policy hplan
    exact decodeMemory_eq_ok hplan hfault hrows hcolumns

/-- What the items become is null exactly where they are. -/
theorem loads_of_yields {d : ResultDocument} {f : Frame} (h : d.Yields f) : d.Loads f := by
  refine ⟨h.rowCount, h.columns.imp ?_⟩
  rintro c column ⟨hname, hwireType, hvalues⟩
  refine ⟨hname, hwireType, hvalues.imp ?_⟩
  rintro vs v ⟨item, hitem, hbecomes⟩
  exact ⟨item, hitem, hbecomes.null_iff⟩

/-- A document whose rows are read is decoded to the frame that it loads as, under every policy that
takes its columns. -/
theorem exists_frame_loaded {d : ResultDocument} {rows : List (List (Option Cell))}
    (h : List.Forall₂ (Column.Read d.columns) d.rows rows) :
    ∃ f, d.Loads f ∧ ∀ policy,
      plan .standard policy d.columns = .ok (slotsOf .standard d.columns) →
        decodeMemory (.ofRows d.columns rows) .standard policy = .ok f := by
  obtain ⟨f, hyields, hdecode⟩ := exists_frame_yields h
  exact ⟨f, loads_of_yields hyields, hdecode⟩

/-- **A loaded document decodes.** Under the policy to skip there is a frame, and it holds the columns
of standard types with null exactly where the document has it. Under the policy to fail the result is
the same frame, unless a column has another type; the error names the leftmost one that has. -/
theorem decodeMemory_loaded {d : ResultDocument} {c : MemoryCursor}
    (h : MemoryCursor.ofDocument d = .ok c) :
    ∃ f, d.Loads f ∧ decodeMemory c .standard .skip = .ok f ∧
      decodeMemory c .standard .fail =
        match d.columns.find? fun column => column.wireType ∉ standardTypes with
        | none => .ok f
        | some column => .error (.unknownType column.name column.wireType) := by
  obtain ⟨rows, hread, rfl⟩ := MemoryCursor.ofDocument_eq_ok.mp h
  obtain ⟨f, hloads, hdecode⟩ := exists_frame_loaded hread
  refine ⟨f, hloads, hdecode .skip (plan_skip .standard d.columns), ?_⟩
  have hunknown : unknown? .standard d.columns =
      d.columns.find? fun column => column.wireType ∉ standardTypes := by
    rw [unknown?]
    congr 1
    funext column
    rw [← Option.not_isSome, isSome_find?_standard, ← decide_not]
  have hplan := plan_eq .standard .fail d.columns
  rw [unknownType?, hunknown] at hplan
  cases hfind : d.columns.find? fun column => column.wireType ∉ standardTypes with
  | none =>
    rw [hfind] at hplan
    exact hdecode .fail hplan
  | some column =>
    rw [hfind] at hplan
    exact decodeMemory_of_refused hplan

/-- A document with nulls, and with a column of a type that is not standard. -/
def readings : ResultDocument where
  columns := [⟨"at", "TIMESTAMP"⟩, ⟨"note", "VARCHAR"⟩, ⟨"level", "FLOAT8"⟩, ⟨"on", "BOOL"⟩]
  rows :=
    [[.number (.int 1705754096789000), .string "start", .number (.int 3), .bool true],
     [.null, .bool false, .null, .null]]

/-- What is served from the document. -/
def readingsCursor : MemoryCursor :=
  .ofRows readings.columns
    [[some (.timestamp ⟨⟨1705754096, 789000000⟩, 0⟩), some (.text "start"),
        some (.float64 (Floating.ofInt .double 3)), some (.bool true)],
      [none, some (.text "false"), none, none]]

/-- A document with a column of an unknown type: one policy skips it, the other names it. -/
theorem decodeMemory_loaded_readings :
    MemoryCursor.ofDocument readings = .ok readingsCursor ∧
      ∃ f, readings.Loads f ∧ decodeMemory readingsCursor .standard .skip = .ok f ∧
        decodeMemory readingsCursor .standard .fail = .error (.unknownType "note" "VARCHAR") := by
  have hload : MemoryCursor.ofDocument readings = .ok readingsCursor := rfl
  exact ⟨hload, decodeMemory_loaded hload⟩

end Decode

end FrameSource
