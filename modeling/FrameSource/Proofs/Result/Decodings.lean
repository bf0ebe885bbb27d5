import FrameSource.Proofs.Result.Typed

/-!
# Decodings that agree

The standard converter of timestamps has a decoding of its own. Under the signature of a nullable
time it does what the default decoding does, cell by cell, and refuses with the same error
(`Decoding.timestamp_eq_default`).

Nothing else of a converter matters to the loop: it reads the signature and decodes cells. So
converters that agree on both can be exchanged, and every cursor is asked the same, ends in the same
state and gives the same result (`decodeThrough_congr`).

**Timestamps may as well be decoded by default** (`decodeWithin_withDecoding`), under whatever wire
type a registry has their converter.
-/

namespace FrameSource

/-- Converters of one signature that decode every cell alike. -/
structure Converter.Agrees (c c' : Converter) : Prop where
  signature : c.signature = c'.signature
  decode : ∀ cell, c.decode cell = c'.decode cell

/-- Columns alike, whose converters agree. -/
structure Slot.Agrees (s s' : Slot) : Prop where
  column : s.column = s'.column
  converter : Option.Rel Converter.Agrees s.converter s'.converter

/-- Registries of the same wire types, whose converters agree. -/
def ConverterRegistry.Agrees (registry registry' : ConverterRegistry) : Prop :=
  ∀ wireType, Option.Rel Converter.Agrees (registry.find? wireType) (registry'.find? wireType)

/-- The same converter with another decoding, or with the default one. -/
def Converter.withDecoding (c : Converter) (custom : Option Decoding) : Converter :=
  { c with custom := custom }

/-- A registry with another decoding for one of its wire types. -/
def ConverterRegistry.withDecoding (registry : ConverterRegistry) (wireType : String)
    (custom : Option Decoding) : ConverterRegistry :=
  ⟨registry.entries.map fun e => (e.1, if e.1 = wireType then e.2.withDecoding custom else e.2)⟩

/-! ## Timestamps by default -/

/-- Timestamps are decoded by default for a column of nullable times. -/
theorem Decoding.timestamp_eq_default (name : String) (cell : Scanned) :
    timestamp ⟨name, .nullableTime, .nullable⟩ cell =
      default ⟨name, .nullableTime, .nullable⟩ cell := by
  cases cell with
  | missing => rfl
  | direct cell => rfl
  | nullable cell? =>
    cases cell? with
    | none => rfl
    | some cell => cases cell <;> rfl

theorem Converter.Agrees.refl (c : Converter) : c.Agrees c := ⟨rfl, fun _ => rfl⟩

/-- The converter of timestamps agrees with itself under the default decoding, named or not. -/
theorem Converter.agrees_withDecoding (name : String) {custom : Option Decoding}
    (hcustom : custom = none ∨ custom = some Decoding.default) :
    Converter.Agrees ⟨⟨name, .nullableTime, .nullable⟩, some Decoding.timestamp⟩
      (withDecoding ⟨⟨name, .nullableTime, .nullable⟩, some Decoding.timestamp⟩ custom) := by
  refine ⟨rfl, ?_⟩
  intro cell
  have hdefault : custom.getD Decoding.default = Decoding.default := by
    rcases hcustom with rfl | rfl <;> rfl
  calc Converter.decode ⟨⟨name, .nullableTime, .nullable⟩, some Decoding.timestamp⟩ cell
      = Decoding.default ⟨name, .nullableTime, .nullable⟩ cell :=
        Decoding.timestamp_eq_default name cell
    _ = (custom.getD Decoding.default) ⟨name, .nullableTime, .nullable⟩ cell := by rw [hdefault]

/-- For a nullable time the default decoding and the one for timestamps are the same on all targets,
so one may be put in the place of the other. -/
theorem ConverterRegistry.agrees_withDecoding {registry : ConverterRegistry}
    {wireType name : String}
    (h : registry.find? wireType =
      some ⟨⟨name, .nullableTime, .nullable⟩, some Decoding.timestamp⟩)
    {custom : Option Decoding} (hcustom : custom = none ∨ custom = some Decoding.default) :
    registry.Agrees (registry.withDecoding wireType custom) := by
  intro other
  have hfind : (registry.withDecoding wireType custom).find? other =
      (registry.find? other).map fun c =>
        if other = wireType then c.withDecoding custom else c :=
    Catalog.lookup_map_entries
      (fun name (c : Converter) => if name = wireType then c.withDecoding custom else c)
      registry.entries other
  rw [hfind]
  by_cases hother : other = wireType
  · subst hother
    rw [h, Option.map_some, if_pos rfl]
    exact .some (Converter.agrees_withDecoding name hcustom)
  · simp only [if_neg hother, Option.map_id']
    cases registry.find? other with
    | none => exact .none
    | some c => exact .some (.refl c)

namespace Decode

/-! ## The loop with other converters -/

section Slots

variable {slots slots' : List Slot} (h : List.Forall₂ Slot.Agrees slots slots')

include h

/-- The targets are made of the shapes alone, which do not change with the decoding. -/
theorem freshTargets_congr : freshTargets slots = freshTargets slots' := by
  induction h with
  | nil => rfl
  | @cons s s' _ _ hs _ ih =>
    have hshape : s.shape = s'.shape := by
      unfold Slot.shape
      obtain ⟨hc, hc'⟩ | ⟨_, _, hc, hc', hagrees⟩ := optionRel_cases hs.converter
      · rw [hc, hc']
      · simp only [hc, hc', hagrees.signature]
    simp only [freshTargets, List.map_cons] at ih ⊢
    rw [hshape, ih]

theorem convertRow_congr (row : Nat) (targets : List ScanTarget) :
    convertRow row slots targets = convertRow row slots' targets := by
  induction h generalizing targets with
  | nil => rfl
  | @cons s s' _ _ hs _ ih =>
    cases targets with
    | nil => rfl
    | cons target targets =>
      obtain ⟨hc, hc'⟩ | ⟨_, _, hc, hc', hagrees⟩ := optionRel_cases hs.converter
      · simp only [convertRow, hc, hc', ih]
      · simp only [convertRow, hc, hc', hagrees.decode, hs.column, ih]

/-- The names and types of the columns of a frame do not depend on the decoding. -/
theorem frameColumns_congr (columns : List (List Value)) :
    frameColumns slots columns = frameColumns slots' columns := by
  induction h generalizing columns with
  | nil => rfl
  | @cons s s' _ _ hs _ ih =>
    obtain ⟨hc, hc'⟩ | ⟨_, _, hc, hc', hagrees⟩ := optionRel_cases hs.converter
    · simp only [frameColumns, hc, hc', ih]
    · cases columns with
      | nil => simp only [frameColumns, hc, hc']
      | cons values columns =>
        simp only [frameColumns, hc, hc', hagrees.signature, hs.column, ih]

theorem assemble_congr (rows : List (List Value)) : assemble slots rows = assemble slots' rows := by
  have hkept : (slots.filter (·.converter.isSome)).length =
      (slots'.filter (·.converter.isSome)).length := by
    induction h with
    | nil => rfl
    | cons hs _ ih =>
      obtain ⟨hc, hc'⟩ | ⟨_, _, hc, hc', _⟩ := optionRel_cases hs.converter <;>
        simp [hc, hc', ih]
  simp only [assemble, hkept, frameColumns_congr h]

/-- The targets go from fetch to fetch whatever the converters are, so the loops are in step. -/
theorem collect_congr {σ : Type} (cursor : Cursor σ) (fuel : Nat) (targets : List ScanTarget)
    (state : σ) (row : Nat) :
    collect cursor slots fuel targets state row = collect cursor slots' fuel targets state row := by
  induction fuel generalizing targets state row with
  | zero => rfl
  | succ fuel ih => simp only [collect, convertRow_congr h, ih]

end Slots

variable {registry registry' : ConverterRegistry}

theorem slotsOf_agrees (h : registry.Agrees registry') (columns : List Column) :
    List.Forall₂ Slot.Agrees (slotsOf registry columns) (slotsOf registry' columns) := by
  rw [slotsOf, slotsOf, List.forall₂_map_left_iff, List.forall₂_map_right_iff, List.forall₂_same]
  intro column _
  exact ⟨rfl, h column.wireType⟩

/-- **Converters that agree can be exchanged.** Whatever the cursor, it is left in the same state
with the same result. -/
theorem decodeThrough_congr {σ : Type} (h : registry.Agrees registry') (fuel : Nat)
    (cursor : Cursor σ) (state : σ) (policy : UnknownColumnPolicy) :
    decodeThrough fuel cursor state registry policy =
      decodeThrough fuel cursor state registry' policy := by
  have hslots := slotsOf_agrees h cursor.columns
  have hknown : unknownType? registry policy cursor.columns =
      unknownType? registry' policy cursor.columns :=
    unknownType?_congr (fun wireType => isSome_eq_of_rel (h wireType)) policy cursor.columns
  unfold decodeThrough
  rw [plan_eq, plan_eq, hknown]
  cases unknownType? registry' policy cursor.columns with
  | some e => rfl
  | none =>
    simp only [freshTargets_congr hslots, collect_congr hslots]
    congr 1
    funext r
    congr 2
    funext rows
    exact assemble_congr hslots rows

/-- **Agreeing registries decode alike**, with any fuel, from any cursor and under every policy. -/
theorem decodeWithin_congr {σ : Type} (h : registry.Agrees registry') (fuel : Nat)
    (cursor : Cursor σ) (state : σ) (policy : UnknownColumnPolicy) :
    decodeWithin fuel cursor state registry policy =
      decodeWithin fuel cursor state registry' policy := by
  rw [decodeWithin, decodeWithin, decodeThrough_congr h]

/-- **Timestamps may as well be decoded by default.** For a column of nullable times the decoding of
timestamps is the default decoding, whatever the cell. So where a registry has the converter of
timestamps, the default decoding in its place, named as its own or not, changes no frame and no error,
of any cursor and under either policy, and the cursor is left in the same state. -/
theorem decodeWithin_withDecoding :
    (∀ (name : String) (cell : Scanned),
      Decoding.timestamp ⟨name, .nullableTime, .nullable⟩ cell =
        Decoding.default ⟨name, .nullableTime, .nullable⟩ cell) ∧
    ∀ {registry : ConverterRegistry} {wireType name : String} {custom : Option Decoding},
      registry.find? wireType =
        some ⟨⟨name, .nullableTime, .nullable⟩, some Decoding.timestamp⟩ →
      custom = none ∨ custom = some Decoding.default →
      ∀ policy : UnknownColumnPolicy,
        (∀ {σ : Type} (fuel : Nat) (cursor : Cursor σ) (state : σ),
          decodeWithin fuel cursor state (registry.withDecoding wireType custom) policy =
            decodeWithin fuel cursor state registry policy ∧
          decodeThrough fuel cursor state (registry.withDecoding wireType custom) policy =
            decodeThrough fuel cursor state registry policy) ∧
        ∀ c : MemoryCursor,
          decodeMemory c (registry.withDecoding wireType custom) policy =
            decodeMemory c registry policy := by
  refine ⟨Decoding.timestamp_eq_default, ?_⟩
  intro registry wireType name custom h hcustom policy
  have hagrees := ConverterRegistry.agrees_withDecoding h hcustom
  refine ⟨?_, ?_⟩
  · intro σ fuel cursor state
    exact ⟨(decodeWithin_congr hagrees fuel cursor state policy).symm,
      (decodeThrough_congr hagrees fuel cursor state policy).symm⟩
  · intro c
    simp only [decodeMemory, decodeWithin_congr hagrees]

/-- Times of two zones and none, and a text where a time should be. -/
def mistimed : MemoryCursor :=
  .ofRows [⟨"seen", "TIMESTAMP"⟩]
    [[some (.timestamp ⟨⟨1705752000, 5⟩, 7200⟩)], [none],
     [some (.timestamp ⟨⟨-1, 999999999⟩, -19800⟩)], [some (.text "noon")]]

/-- A registry with the decoding for timestamps left out decodes a cursor as before; and with the
default decoding given instead, a text in a column of times is refused with the same error. -/
theorem decodeWithin_withDecoding_mistimed :
    ConverterRegistry.standard.find? "TIMESTAMP" =
        some ⟨⟨"TIMESTAMP", .nullableTime, .nullable⟩, some Decoding.timestamp⟩ ∧
      decodeWithin 3 wandering 0 (ConverterRegistry.standard.withDecoding "TIMESTAMP" none) .skip =
        some (.ok wanderingFrame) ∧
      decodeMemory mistimed
          (ConverterRegistry.standard.withDecoding "TIMESTAMP" (some Decoding.default)) .fail =
        .error (.convert "seen" 3
          (.shapeMismatch "TIMESTAMP" (.nullable (some (.text "noon"))))) := by
  have hfind : ConverterRegistry.standard.find? "TIMESTAMP" =
      some ⟨⟨"TIMESTAMP", .nullableTime, .nullable⟩, some Decoding.timestamp⟩ := rfl
  obtain ⟨_, hreplace⟩ := decodeWithin_withDecoding
  obtain ⟨hwithin, _⟩ := hreplace hfind (Or.inl rfl) .skip
  obtain ⟨_, hmemory⟩ := hreplace hfind (Or.inr rfl) .fail
  refine ⟨hfind, ?_, ?_⟩
  · rw [(hwithin 3 wandering 0).1]
    rfl
  · rw [hmemory mistimed]
    rfl

end Decode

end FrameSource
