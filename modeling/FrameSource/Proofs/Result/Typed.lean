import FrameSource.Proofs.Result.Run

/-!
# Typed columns

What the values of a frame have to do with the cells that a cursor delivered. A regular converter
decodes by default, or decodes timestamps for a column of timestamps; it keeps a cell as it is, but
for the offset of a timestamp, or refuses it. It never makes up a value and never drops one
(`Converter.IsRegular.reports`).

**The columns of a frame are typed** (`decodeWithin_typed`), whatever the cursor writes to its
targets, other targets included: a value that is not null is of the kind of its column's field type,
and is the cell that the cursor put into the target of that column in the fetch of that row. A value
is null where nothing was put, also if the fetch before had put something there.

Nothing is said of converters that are not regular: a decoding of its own may make of a cell what it
likes.
-/

namespace FrameSource

/-- Whether a value is of the kind that a field type names. -/
def FieldType.holds : FieldType → Value → Bool
  | .bool, .bool _ => true
  | .int16, .int16 _ => true
  | .nullableFloat32, .float32 _ => true
  | .nullableFloat64, .float64 _ => true
  | .nullableTime, .timestamp _ => true
  | _, _ => false

/-- The value that is the cell, a timestamp being taken to UTC. No value is a text. -/
def Cell.value? : Cell → Option Value
  | .bool b => some (.bool b)
  | .int16 n => some (.int16 n)
  | .float32 x => some (.float32 x)
  | .float64 x => some (.float64 x)
  | .timestamp t => some (.timestamp t.instant)
  | .text _ => none

/-- The cell in a target; database null is none. -/
def Scanned.cell? : Scanned → Option Cell
  | .missing => none
  | .direct cell => some cell
  | .nullable cell => cell

/-- A value says of a column's cell what it was. -/
structure Value.Reports (v : Value) (fieldType : FieldType) (cell? : Option Cell) : Prop where
  /-- The value is null or of the kind of the field type. -/
  typed : v = .null ∨ fieldType.holds v = true
  /-- A value that is not null is the cell. -/
  same : v ≠ .null → ∃ cell, cell? = some cell ∧ cell.value? = some v
  /-- Null stands for database null and for nothing else. -/
  null : v = .null ↔ cell? = none

/-- A converter that decodes by default, or timestamps for a column of timestamps. -/
def Converter.IsRegular (c : Converter) : Prop :=
  c.custom = none ∨ c.custom = some Decoding.default ∨
    (c.custom = some Decoding.timestamp ∧ c.signature.fieldType = .nullableTime)

/-! ## One cell -/

theorem Value.Reports.absent (fieldType : FieldType) : Value.null.Reports fieldType none where
  typed := Or.inl rfl
  same := fun h => absurd rfl h
  null := iff_of_true rfl rfl

/-- A cell that a field type accepts is kept. -/
theorem Value.Reports.accepted {fieldType : FieldType} {cell : Cell} {v : Value}
    (h : fieldType.accept cell = some v) : v.Reports fieldType (some cell) := by
  have hkept : cell.value? = some v ∧ fieldType.holds v = true := by
    cases fieldType <;> cases cell <;> cases h <;> exact ⟨rfl, rfl⟩
  obtain ⟨hvalue, hholds⟩ := hkept
  have hnull : v ≠ .null := by
    rintro rfl
    cases fieldType <;> cases hholds
  exact ⟨Or.inr hholds, fun _ => ⟨cell, rfl, hvalue⟩, iff_of_false hnull nofun⟩

/-- A cell in the shape of the signature is decoded if the field type accepts it. -/
theorem accepted_of_default {s : Signature} {scanned : Scanned} {cell : Cell} {v : Value}
    (hshape : (s.shape = .direct ∧ scanned = .direct cell) ∨
      (s.shape = .nullable ∧ scanned = .nullable (some cell)))
    (h : Decoding.default s scanned = .ok v) : v.Reports s.fieldType (some cell) := by
  apply Value.Reports.accepted
  cases haccept : s.fieldType.accept cell with
  | none => rcases hshape with ⟨hs, rfl⟩ | ⟨hs, rfl⟩ <;> simp [Decoding.default, hs, haccept] at h
  | some w =>
    rcases hshape with ⟨hs, rfl⟩ | ⟨hs, rfl⟩ <;>
      simp only [Decoding.default, hs, haccept, Except.ok.injEq] at h <;>
      rw [h]

/-- The default decoding passes a cell on as a value of its own kind, or reads `null` from none. -/
theorem Decoding.default_reports {s : Signature} {scanned : Scanned} {v : Value}
    (h : Decoding.default s scanned = .ok v) : v.Reports s.fieldType scanned.cell? := by
  obtain ⟨wireType, fieldType, shape⟩ := s
  cases scanned with
  | missing =>
    obtain rfl : Value.null = v := by cases shape <;> exact Except.ok.inj h
    exact .absent fieldType
  | direct cell =>
    cases shape with
    | direct => exact accepted_of_default (Or.inl ⟨rfl, rfl⟩) h
    | nullable => cases h
  | nullable cell? =>
    cases shape with
    | direct => cases cell? <;> cases h
    | nullable =>
      cases cell? with
      | none =>
        obtain rfl := Except.ok.inj h
        exact .absent fieldType
      | some cell => exact accepted_of_default (Or.inr ⟨rfl, rfl⟩) h

/-- The decoding for timestamps passes times on, and has nothing to say of other kinds. -/
theorem Decoding.timestamp_reports {s : Signature} {scanned : Scanned} {v : Value}
    (htime : s.fieldType = .nullableTime) (h : Decoding.timestamp s scanned = .ok v) :
    v.Reports s.fieldType scanned.cell? := by
  match scanned with
  | .missing | .nullable none =>
    obtain rfl := Except.ok.inj h
    exact .absent s.fieldType
  | .nullable (some (.timestamp t)) =>
    obtain rfl := Except.ok.inj h
    exact .accepted (by rw [htime]; rfl)
  | .nullable (some (.bool _)) | .nullable (some (.int16 _)) | .nullable (some (.float32 _))
  | .nullable (some (.float64 _)) | .nullable (some (.text _)) | .direct _ => cases h

/-- **A regular converter keeps a cell or refuses it.** -/
theorem Converter.IsRegular.reports {c : Converter} (h : c.IsRegular) {scanned : Scanned}
    {v : Value} (hv : c.decode scanned = .ok v) :
    v.Reports c.signature.fieldType scanned.cell? := by
  obtain ⟨signature, custom⟩ := c
  rcases h with h | h | ⟨h, htime⟩
  · obtain rfl : custom = none := h
    exact Decoding.default_reports hv
  · obtain rfl : custom = some Decoding.default := h
    exact Decoding.default_reports hv
  · obtain rfl : custom = some Decoding.timestamp := h
    exact Decoding.timestamp_reports htime hv

/-! ## The standard converters -/

/-- The standard registry finds standard converters, each by its own wire type. -/
theorem mem_standard_of_find? {wireType : String} {c : Converter}
    (h : ConverterRegistry.standard.find? wireType = some c) :
    c ∈ Converter.standard ∧ c.signature.wireType = wireType := by
  have hentry := (Catalog.ofList_perm _).mem_iff.mp (Catalog.mem_of_find? h)
  obtain ⟨d, hd, hentry⟩ := List.mem_map.mp hentry
  obtain ⟨rfl, rfl⟩ := Prod.mk.inj hentry
  exact ⟨hd, rfl⟩

theorem mem_standard {c : Converter} :
    c ∈ Converter.standard ↔ c = .plain "BOOL" .bool .direct ∨ c = .plain "INT2" .int16 .direct ∨
      c = .plain "FLOAT4" .nullableFloat32 .nullable ∨
      c = .plain "FLOAT8" .nullableFloat64 .nullable ∨
      c = ⟨⟨"TIMESTAMP", .nullableTime, .nullable⟩, some Decoding.timestamp⟩ := by
  simp only [Converter.standard, List.mem_cons, List.not_mem_nil, or_false]

theorem isRegular_of_mem_standard {c : Converter} (h : c ∈ Converter.standard) : c.IsRegular := by
  rcases mem_standard.mp h with rfl | rfl | rfl | rfl | rfl
  · exact Or.inl rfl
  · exact Or.inl rfl
  · exact Or.inl rfl
  · exact Or.inl rfl
  · exact Or.inr (Or.inr ⟨rfl, rfl⟩)

namespace Decode

variable {σ : Type} {cursor : Cursor σ} {slots : List Slot} {s : Standing slots σ} {state : σ}

/-! ## One fetch -/

/-- The target that the next fetch puts in the place of the one at a position, if it writes to it at
all. -/
def written (cursor : Cursor σ) (s : Standing slots σ) (position : Nat) : Option ScanTarget :=
  (s.fetch cursor).writes[position]?.join

/-- The cell that the next fetch puts into the target at a position. -/
def delivered (cursor : Cursor σ) (s : Standing slots σ) (position : Nat) : Option Cell :=
  (written cursor s position).bind fun target => target.cell.cell?

/-- A target is the one that was written in its place, and otherwise the one that it was. -/
theorem getElem?_write (targets : List ScanTarget) (writes : List (Option ScanTarget))
    (position : Nat) :
    (ScanTarget.write targets writes)[position]? =
      targets[position]?.map fun target => writes[position]?.join.getD target := by
  induction targets generalizing writes position with
  | nil => cases writes <;> rfl
  | cons target targets ih =>
    cases writes with
    | nil =>
      rw [ScanTarget.write]
      cases (target :: targets)[position]? <;> rfl
    | cons write writes =>
      rw [ScanTarget.write]
      cases position with
      | zero => rfl
      | succ position => exact ih writes position

/-- After a fetch a target is what the fetch put in its place, and else it holds nothing, in the shape
that it had. -/
theorem getElem?_scan (cursor : Cursor σ) (s : Standing slots σ) (position : Nat) :
    (s.scan cursor)[position]? = s.targets[position]?.map fun target =>
      (written cursor s position).getD target.reset := by
  rw [Standing.scan, getElem?_write, Standing.offered, List.getElem?_map, Option.map_map]
  rfl

/-- A target that was not handed over was reset, so it holds no cell. -/
theorem cell?_getD_reset (target? : Option ScanTarget) (target : ScanTarget) :
    (target?.getD target.reset).cell.cell? = target?.bind fun t => t.cell.cell? := by
  cases target? <;> rfl

/-- What a regular converter reads after a fetch reports the cell that the fetch delivered. -/
theorem Kept.Reads.reports {k : Kept} {v : Value} (hregular : k.converter.IsRegular)
    (h : k.Reads (s.scan cursor) v) :
    v.Reports k.converter.signature.fieldType (delivered cursor s k.position) := by
  obtain ⟨target, htarget, hv⟩ := h
  rw [getElem?_scan] at htarget
  obtain ⟨before, _, rfl⟩ := Option.map_eq_some_iff.mp htarget
  rw [delivered, ← cell?_getD_reset _ before]
  exact hregular.reports hv

/-! ## All fetches -/

/-- The converter of a kept column is the one that the registry has for its type. -/
theorem find?_of_mem_kept {registry : ConverterRegistry} {columns : List Column} {k : Kept}
    (h : k ∈ kept (slotsOf registry columns)) :
    registry.find? k.column.wireType = some k.converter := by
  have hslot := getElem?_of_mem_kept h
  rw [slotsOf, List.getElem?_map] at hslot
  obtain ⟨column, _, hcolumn⟩ := Option.map_eq_some_iff.mp hslot
  obtain ⟨rfl, hfind⟩ := Slot.mk.inj hcolumn
  exact hfind

/-- In the row of a number, the value reports the cell that was delivered for the column. -/
def Kept.ReportsFetch (cursor : Cursor σ) (slots : List Slot) (state : σ) (k : Kept) (row : Nat)
    (v : Value) : Prop :=
  v.Reports k.converter.signature.fieldType
    (delivered cursor ((Standing.start slots state).after cursor row) k.position)

/-- **The columns of a frame are typed.** Where all converters are regular, every frame that is
decoded from a cursor, after however many fetches and under either policy, has the kept columns; and
in each row a column's value reports the cell that the fetch of that row delivered for it. -/
theorem decodeWithin_typed {registry : ConverterRegistry}
    (hregular : ∀ wireType converter, registry.find? wireType = some converter →
      converter.IsRegular)
    {policy : UnknownColumnPolicy} {fuel : Nat} {f : Frame}
    (h : decodeWithin fuel cursor state registry policy = some (.ok f)) :
    List.Forall₂
      (Kept.Fills (Kept.ReportsFetch cursor (slotsOf registry cursor.columns) state)
        (List.range f.rowCount))
      (kept (slotsOf registry cursor.columns)) f.columns := by
  obtain ⟨rows, final, hrun, hassemble⟩ := exists_run_of_decodeWithin h
  obtain ⟨g, hg, hrows, hcolumns⟩ := hrun.assemble_eq
  obtain rfl : g = f := Except.ok.inj (hg.symm.trans hassemble)
  refine forall₂_imp_mem hcolumns ?_
  intro k hk column hfills
  refine ⟨hfills.name, hfills.wireType, hfills.fieldType, ?_⟩
  -- Row `n` was converted from the targets after fetch `n`, so rows and fetches are numbered alike.
  have hvalues := hfills.values
  rw [Standing.scans_eq_map, List.forall₂_map_left_iff, ← hrows] at hvalues
  refine hvalues.imp ?_
  intro row v hv
  exact hv.reports (hregular _ _ (find?_of_mem_kept hk))

/-- A cursor over numbers with a column of an unknown type between two others. It sets an offset
timestamp and a flag, then nothing but database null for the skipped column, and then it ends. -/
def wandering : Cursor Nat where
  columns := [⟨"seen", "TIMESTAMP"⟩, ⟨"id", "UUID"⟩, ⟨"done", "BOOL"⟩]
  fetch state targets :=
    match state with
    | 0 => ⟨ScanTarget.setEach targets
          [some (.nullable (some (.timestamp ⟨⟨1705752000, 5⟩, 7200⟩))), none,
            some (.direct (.bool true))],
        .ok true, 1⟩
    | 1 => ⟨ScanTarget.setEach targets [none, some (.nullable none)], .ok true, 2⟩
    | _ => ⟨[], .ok false, 2⟩

/-- What is decoded from the wandering cursor. -/
def wanderingFrame : Frame where
  columns :=
    [⟨"seen", "TIMESTAMP", .nullableTime, [.timestamp ⟨1705752000, 5⟩, .null]⟩,
     ⟨"done", "BOOL", .bool, [.bool true, .null]⟩]
  rowCount := 2
  rectangular := by decide

/-- Two of its columns are kept, and each of its two fetches is reported in both: by a value where a
cell was set, and by null where none was. -/
theorem decodeWithin_typed_wandering :
    (∀ wireType converter, ConverterRegistry.standard.find? wireType = some converter →
        converter.IsRegular) ∧
      decodeWithin 3 wandering 0 .standard .skip = some (.ok wanderingFrame) ∧
      List.Forall₂
        (Kept.Fills (Kept.ReportsFetch wandering (slotsOf .standard wandering.columns) 0)
          (List.range 2))
        (kept (slotsOf .standard wandering.columns)) wanderingFrame.columns := by
  have hregular : ∀ wireType converter,
      ConverterRegistry.standard.find? wireType = some converter → converter.IsRegular :=
    fun _ _ h => isRegular_of_mem_standard (mem_standard_of_find? h).1
  have hdecode : decodeWithin 3 wandering 0 .standard .skip = some (.ok wanderingFrame) := rfl
  exact ⟨hregular, hdecode, decodeWithin_typed hregular hdecode⟩

end Decode

end FrameSource
