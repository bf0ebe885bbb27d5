import FrameSource.Proofs.Result.Selection
import FrameSource.Proofs.Result.Typed

/-!
# Scan shapes

A memory cursor puts each cell into its target in the shape that the target asks for, and the default
decoding looks through that shape: what it makes of the cell depends on the field type alone
(`default_shaped`). Only the error of a cell that is refused still shows the shape.

**The shapes of default converters do not matter** (`decodeMemory_alike`). Registries that differ in
them alone decode every memory cursor alike: to the same frame, or to errors of one kind at one
column and row. Custom decodings see the shape, so for those it must be the same.
-/

namespace FrameSource

/-- The same converter but for the shape it asks for; with decoding of its own, that is the same too. -/
structure Converter.Reshapes (c c' : Converter) : Prop where
  wireType : c.signature.wireType = c'.signature.wireType
  fieldType : c.signature.fieldType = c'.signature.fieldType
  custom : c.custom = c'.custom
  shape : c.custom.isSome = true → c.signature.shape = c'.signature.shape

/-- A converter with another shape, unless it has a decoding of its own. -/
def Converter.reshape (c : Converter) (shape : ScanShape) : Converter :=
  if c.custom.isSome then c else { c with signature := { c.signature with shape := shape } }

/-- Registries of the same wire types, whose converters are the same but for shapes. -/
def ConverterRegistry.Reshapes (registry registry' : ConverterRegistry) : Prop :=
  ∀ wireType, Option.Rel Converter.Reshapes (registry.find? wireType) (registry'.find? wireType)

/-- A registry with other shapes for the wire types of the converters that decode by default. -/
def ConverterRegistry.reshape (registry : ConverterRegistry) (shape : String → ScanShape) :
    ConverterRegistry :=
  ⟨registry.entries.map fun e => (e.1, e.2.reshape (shape e.1))⟩

/-- Conversion errors of one kind: mismatches of one wire type show the same cell, in whatever shape. -/
inductive ConvertError.Alike : ConvertError → ConvertError → Prop where
  | same (e : ConvertError) : Alike e e
  | mismatch (wireType : String) {scanned scanned' : Scanned}
      (cell : scanned.cell? = scanned'.cell?) :
      Alike (.shapeMismatch wireType scanned) (.shapeMismatch wireType scanned')

/-- Decoding errors of one kind, at one column and row if they are about a cell. -/
inductive DecodeError.Alike : DecodeError → DecodeError → Prop where
  | same (e : DecodeError) : Alike e e
  | convert (column : String) (row : Nat) {cause cause' : ConvertError} (h : cause.Alike cause') :
      Alike (.convert column row cause) (.convert column row cause')

/-- Two results are the same value, or errors that are related. -/
inductive AlikeUnder {ε α : Type} (R : ε → ε → Prop) : Except ε α → Except ε α → Prop where
  | ok (a : α) : AlikeUnder R (.ok a) (.ok a)
  | error {e e' : ε} (h : R e e') : AlikeUnder R (.error e) (.error e')

theorem AlikeUnder.cases {ε α : Type} {R : ε → ε → Prop} {x y : Except ε α}
    (h : AlikeUnder R x y) :
    (∃ a, x = .ok a ∧ y = .ok a) ∨ ∃ e e', x = .error e ∧ y = .error e' ∧ R e e' := by
  cases h with
  | ok a => exact Or.inl ⟨a, rfl, rfl⟩
  | error h => exact Or.inr ⟨_, _, rfl, rfl, h⟩

theorem Converter.reshapes_reshape (c : Converter) (shape : ScanShape) :
    c.Reshapes (c.reshape shape) := by
  unfold reshape
  split
  · exact ⟨rfl, rfl, rfl, fun _ => rfl⟩
  · next hdefault => exact ⟨rfl, rfl, rfl, fun hcustom => absurd hcustom hdefault⟩

/-- Reshaping keeps the wire types and everything but the shapes. -/
theorem ConverterRegistry.reshapes_reshape (registry : ConverterRegistry)
    (shape : String → ScanShape) : registry.Reshapes (registry.reshape shape) := by
  intro wireType
  have hfind : (registry.reshape shape).find? wireType =
      (registry.find? wireType).map (Converter.reshape · (shape wireType)) :=
    Catalog.lookup_map_entries (fun name (c : Converter) => c.reshape (shape name))
      registry.entries wireType
  rw [hfind]
  cases registry.find? wireType with
  | none => exact .none
  | some c => exact .some (c.reshapes_reshape (shape wireType))

/-! ## One cell -/

/-- The default decoding looks through the shape of the signature. -/
theorem Decoding.default_shaped (s : Signature) (cell? : Option Cell) :
    Decoding.default s (.shaped s.shape cell?) =
      match cell? with
      | none => .ok .null
      | some cell =>
        match s.fieldType.accept cell with
        | some v => .ok v
        | none => .error (.shapeMismatch s.wireType (.shaped s.shape (some cell))) := by
  obtain ⟨wireType, fieldType, shape⟩ := s
  cases shape <;> cases cell? <;> rfl

theorem cell?_shaped (shape : ScanShape) (cell? : Option Cell) :
    (Scanned.shaped shape cell?).cell? = cell? := by
  cases shape <;> cases cell? <;> rfl

/-- A cell that comes in the shape that is asked for is decoded alike. -/
theorem Converter.Reshapes.decode {c c' : Converter} (h : c.Reshapes c') (cell? : Option Cell) :
    AlikeUnder ConvertError.Alike (c.decode (.shaped c.signature.shape cell?))
      (c'.decode (.shaped c'.signature.shape cell?)) := by
  obtain ⟨⟨wireType, fieldType, shape⟩, custom⟩ := c
  obtain ⟨⟨wireType', fieldType', shape'⟩, custom'⟩ := c'
  obtain rfl : wireType = wireType' := h.wireType
  obtain rfl : fieldType = fieldType' := h.fieldType
  obtain rfl : custom = custom' := h.custom
  cases custom with
  | some decoding =>
    -- A decoding of its own sees the shape, which is the same then, and so is the result.
    obtain rfl : shape = shape' := h.shape rfl
    generalize Converter.decode ⟨⟨wireType, fieldType, shape⟩, some decoding⟩ _ = result
    cases result with
    | ok v => exact .ok v
    | error cause => exact .error (.same cause)
  | none =>
    show AlikeUnder _ (Decoding.default ⟨wireType, fieldType, shape⟩ _)
      (Decoding.default ⟨wireType, fieldType, shape'⟩ _)
    rw [Decoding.default_shaped ⟨wireType, fieldType, shape⟩,
      Decoding.default_shaped ⟨wireType, fieldType, shape'⟩]
    cases cell? with
    | none => exact .ok Value.null
    | some cell =>
      simp only
      cases fieldType.accept cell with
      | some v => exact .ok v
      | none => exact .error (.mismatch wireType (by rw [cell?_shaped, cell?_shaped]))

namespace Decode

/-! ## Kept columns -/

/-- The same kept column, the converter being the same but for its shape. -/
structure Kept.Reshapes (k k' : Kept) : Prop where
  position : k.position = k'.position
  column : k.column = k'.column
  converter : k.converter.Reshapes k'.converter

theorem Kept.Reshapes.shift {k k' : Kept} (h : k.Reshapes k') : k.shift.Reshapes k'.shift where
  position := congrArg (· + 1) h.position
  column := h.column
  converter := h.converter

section Registries

variable {registry registry' : ConverterRegistry} (h : registry.Reshapes registry')

include h

/-- The same columns are kept. -/
theorem kept_reshapes (columns : List Column) :
    List.Forall₂ Kept.Reshapes (kept (slotsOf registry columns))
      (kept (slotsOf registry' columns)) := by
  induction columns with
  | nil => exact .nil
  | cons column columns ih =>
    have hrest : List.Forall₂ Kept.Reshapes ((kept (slotsOf registry columns)).map Kept.shift)
        ((kept (slotsOf registry' columns)).map Kept.shift) := by
      rw [List.forall₂_map_left_iff, List.forall₂_map_right_iff]
      exact ih.imp fun _ _ hk => hk.shift
    rw [slotsOf, slotsOf, List.map_cons, List.map_cons, kept_cons, kept_cons]
    obtain ⟨hc, hc'⟩ | ⟨_, _, hc, hc', hreshapes⟩ := optionRel_cases (h column.wireType)
    · rw [hc, hc']
      exact hrest
    · rw [hc, hc']
      exact .cons ⟨rfl, rfl, hreshapes⟩ hrest

/-- The same types are unknown. -/
theorem unknownType?_reshapes (policy : UnknownColumnPolicy) (columns : List Column) :
    unknownType? registry policy columns = unknownType? registry' policy columns :=
  unknownType?_congr (fun wireType => isSome_eq_of_rel (h wireType)) policy columns

end Registries

section Kept

variable {k k' : Kept} (h : k.Reshapes k')

include h

/-- The shape of a target shows in an error alone, which displays what the target held. -/
theorem Kept.Reshapes.convert (cell? : Option Cell) :
    AlikeUnder ConvertError.Alike (k.convert cell?) (k'.convert cell?) :=
  h.converter.decode cell?

/-- A row is rejected for both columns alike. -/
theorem Kept.Reshapes.rejection? (row : Nat) (cells : List (Option Cell)) :
    Option.Rel DecodeError.Alike (k.rejection? row cells) (k'.rejection? row cells) := by
  rw [Kept.rejection?, Kept.rejection?, h.position, h.column]
  cases cells[k'.position]? with
  | none => exact .none
  | some cell? =>
    obtain ⟨v, hv, hv'⟩ | ⟨cause, cause', hv, hv', halike⟩ := (h.convert cell?).cases
    · simp only [hv, hv']
      exact .none
    · simp only [hv, hv']
      exact .some (.convert k'.column.name row halike)

/-- A cell that has a value in one column has it in the other. -/
theorem Kept.Reshapes.readsCell {cells : List (Option Cell)} {v : Value}
    (hreads : k.ReadsCell cells v) : k'.ReadsCell cells v := by
  obtain ⟨cell?, hcell, hv⟩ := hreads
  refine ⟨cell?, h.position ▸ hcell, ?_⟩
  obtain ⟨w, hw, hw'⟩ | ⟨_, _, herror, _⟩ := (h.convert cell?).cases
  · rw [hw', ← hw, hv]
  · cases hv.symm.trans herror

theorem Kept.Reshapes.fills {rows : List (List (Option Cell))} {column : FrameColumn}
    (hfills : k.Fills Kept.ReadsCell rows column) : k'.Fills Kept.ReadsCell rows column where
  name := by rw [hfills.name, h.column]
  wireType := by rw [hfills.wireType, h.column]
  fieldType := by rw [hfills.fieldType, h.converter.fieldType]
  values := hfills.values.imp fun _ _ hv => h.readsCell hv

end Kept

/-! ## Faults -/

section Faults

variable (c : MemoryCursor) {ks ks' : List Kept} (h : List.Forall₂ Kept.Reshapes ks ks')

include h

/-- A fetch fails in both decodings or in neither, for alike reasons. -/
theorem fault?_alike (row delivered : Nat) (cells? : Option (List (Option Cell))) :
    Option.Rel DecodeError.Alike (fault? c ks row delivered cells?)
      (fault? c ks' row delivered cells?) := by
  unfold fault?
  split
  · exact .some (.same _)
  · cases cells? with
    | none => exact .none
    | some cells =>
      simp only
      split
      · exact findSome?_rel_forall₂ (h.imp fun _ _ hk => hk.rejection? row cells)
      · exact .some (.same _)

/-- The first faults are alike, in the same fetch. -/
theorem firstFault?_alike (row : Nat) :
    Option.Rel DecodeError.Alike (firstFault? c ks row) (firstFault? c ks' row) := by
  rw [firstFault?, firstFault?]
  apply findSome?_rel_forall₂
  rw [List.forall₂_same]
  intro r _
  exact fault?_alike c h (row + r) (c.fetched + r) c.rows[r]?

end Faults

/-- **The shapes of default converters do not matter.** Registries that differ only in the shapes of
converters without decoding of their own decode every memory cursor to the same frame, or to errors
of one kind; an error about a cell is at the same column and row. -/
theorem decodeMemory_alike {registry registry' : ConverterRegistry}
    (h : registry.Reshapes registry') (c : MemoryCursor) (policy : UnknownColumnPolicy) :
    AlikeUnder DecodeError.Alike (decodeMemory c registry policy)
      (decodeMemory c registry' policy) := by
  have hkept := kept_reshapes h c.columns
  have hplan := plan_eq registry policy c.columns
  have hplan' := plan_eq registry' policy c.columns
  rw [unknownType?_reshapes h] at hplan
  cases hunknown : unknownType? registry' policy c.columns with
  | some e =>
    rw [hunknown] at hplan hplan'
    rw [decodeMemory_of_refused hplan, decodeMemory_of_refused hplan']
    exact .error (.same e)
  | none =>
    rw [hunknown] at hplan hplan'
    obtain ⟨hfault, hfault'⟩ | ⟨e, e', hfault, hfault', halike⟩ :=
      optionRel_cases (firstFault?_alike c hkept 0)
    · obtain ⟨f, hf, hrows, hcolumns⟩ := exists_frame hplan hfault
      have hfills := forall₂_of_common (fun _ _ _ hk hfills => hk.fills hfills) hkept hcolumns
      rw [hf, decodeMemory_eq_ok hplan' hfault' hrows hfills]
      exact .ok f
    · rw [decodeMemory_eq_error hplan hfault, decodeMemory_eq_error hplan' hfault']
      exact .error halike

/-- A reading that was never taken, and one that is not of its type. -/
def misread : MemoryCursor :=
  .ofRows [⟨"level", "FLOAT8"⟩, ⟨"id", "UUID"⟩, ⟨"on", "BOOL"⟩]
    [[none, some (.text "3f2a"), none],
     [some (.float64 (Floating.ofInt .double 3)), none, some (.text "yes")]]

/-- A cell of the wrong kind is refused in both shapes, and the two errors are not equal: each shows
its own shape. -/
theorem decodeMemory_alike_misread :
    ConverterRegistry.standard.Reshapes
        (ConverterRegistry.standard.reshape fun wireType =>
          if wireType = "BOOL" then .nullable else .direct) ∧
      decodeMemory misread .standard .skip =
        .error (.convert "on" 1 (.shapeMismatch "BOOL" (.direct (.text "yes")))) ∧
      decodeMemory misread
          (ConverterRegistry.standard.reshape fun wireType =>
            if wireType = "BOOL" then .nullable else .direct) .skip =
        .error (.convert "on" 1 (.shapeMismatch "BOOL" (.nullable (some (.text "yes"))))) ∧
      AlikeUnder DecodeError.Alike (decodeMemory misread .standard .skip)
        (decodeMemory misread
          (ConverterRegistry.standard.reshape fun wireType =>
            if wireType = "BOOL" then .nullable else .direct) .skip) := by
  have hreshapes := ConverterRegistry.standard.reshapes_reshape fun wireType =>
    if wireType = "BOOL" then .nullable else .direct
  exact ⟨hreshapes, rfl, rfl, decodeMemory_alike hreshapes misread .skip⟩

end Decode

end FrameSource
