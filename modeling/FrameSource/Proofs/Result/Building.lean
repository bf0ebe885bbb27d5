import FrameSource.Proofs.Catalog
import FrameSource.Proofs.Text.ByteOrder
import FrameSource.Result.Converter

/-!
# Building a registry of converters

A registry is built in steps: a step registers one converter, or the standard ones in their order.
**The wire types that the steps bring decide what comes of it** (`build_steps`). If all are distinct,
the registry lists the converters of all steps (`ConverterRegistry.Lists`) in the byte order of their
wire types, each under its own, and the order of the steps leaves no trace. Otherwise the first step
that brings a wire type again is reported, with the first such wire type in it.
-/

namespace FrameSource.ConverterRegistry

/-- The converters that a step registers. -/
def convertersOf (step : BuildStep Converter) : List Converter :=
  step.entries Converter.standard

/-- The wire types that a step registers converters for. -/
def wireTypesOf (step : BuildStep Converter) : List String :=
  (convertersOf step).map (·.signature.wireType)

/-- A registry of given converters: these and no others, by wire type. -/
structure Lists (r : ConverterRegistry) (cs : List Converter) : Prop where
  /-- Every converter is kept under its own wire type. -/
  keyed : r.entries = r.toList.map Converter.entry
  perm : r.toList.Perm cs
  ascending : r.toList.Pairwise fun c c' =>
    Text.bytes c.signature.wireType < Text.bytes c'.signature.wireType
  size : r.size = cs.length
  found : ∀ wireType c, r.find? wireType = some c ↔ c ∈ cs ∧ c.signature.wireType = wireType
  absent : ∀ wireType, r.find? wireType = none ↔ ∀ c ∈ cs, c.signature.wireType ≠ wireType

variable {r : ConverterRegistry} {cs : List Converter} {batches : List (List Converter)}

/-! ## Lists and catalogs -/

/-- What a registry lists is what its catalog holds, with the names of types ordered by their bytes. -/
theorem lists_of_holds (h : Catalog.Holds r (cs.map Converter.entry)) : Lists r cs := by
  -- The catalog keeps names and converters; the name of an entry is the type of its converter.
  have hkeyed : r.entries = r.toList.map Converter.entry := by
    rw [Catalog.toList, List.map_map]
    refine (List.map_id r.entries).symm.trans (List.map_congr_left fun e he => ?_)
    obtain ⟨c, _, rfl⟩ := List.mem_map.mp (h.perm.mem_iff.mp he)
    rfl
  have hmem : ∀ wireType c, (wireType, c) ∈ cs.map Converter.entry ↔
      c ∈ cs ∧ c.signature.wireType = wireType := by
    intro wireType c
    rw [List.mem_map]
    constructor
    · rintro ⟨c', hc', heq⟩
      cases heq
      exact ⟨hc', rfl⟩
    · rintro ⟨hc, rfl⟩
      exact ⟨c, hc, rfl⟩
  have hsnd : (cs.map Converter.entry).map Prod.snd = cs := by
    rw [List.map_map]
    exact List.map_id cs
  refine ⟨hkeyed, ?_, ?_, ?_, ?_, ?_⟩
  · have hperm := h.perm.map Prod.snd
    rwa [hsnd] at hperm
  · have hascending := h.ascending
    rw [hkeyed, List.pairwise_map] at hascending
    exact hascending.imp Text.bytes_lt_bytes
  · rw [Catalog.size, h.perm.length_eq, List.length_map]
  · intro wireType c
    rw [h.find?_eq_some_iff, hmem]
  · intro wireType
    rw [h.find?_eq_none_iff, List.map_map, List.mem_map, not_exists]
    simp only [not_and]
    rfl

/-- A registry is built as a catalog of converters under the names of their types. -/
theorem build_eq (batches : List (List Converter)) :
    build batches = (Catalog.build (batches.map (·.map Converter.entry))).mapError
      (Prod.map id .duplicateType) := by
  rw [build]
  cases Catalog.build (batches.map (·.map Converter.entry)) <;> rfl

/-! ## Steps -/

theorem nodup_wireTypesOf (step : BuildStep Converter) : (wireTypesOf step).Nodup := by
  cases step with
  | register c => exact List.nodup_singleton _
  | standard => decide

theorem namesIn_steps (steps : List (BuildStep Converter)) :
    Catalog.namesIn ((steps.map convertersOf).map (·.map Converter.entry)) =
      steps.map wireTypesOf := by
  rw [Catalog.namesIn, List.map_map, List.map_map]
  refine List.map_congr_left fun step _ => ?_
  show ((convertersOf step).map Converter.entry).map Prod.fst = wireTypesOf step
  rw [List.map_map]
  rfl

theorem flatten_entries (steps : List (BuildStep Converter)) :
    ((steps.map convertersOf).map (·.map Converter.entry)).flatten =
      (steps.flatMap convertersOf).map Converter.entry := by
  rw [List.flatMap_def, List.map_flatten]

/-- **Building a registry.** It is built exactly if no wire type is registered twice, and then lists
the converters that were registered, whatever the order of the steps. If it is not built, that is the
fault of the first step that registers a wire type again, and the fault names the first such wire
type in the order of that step. -/
theorem build_steps (steps : List (BuildStep Converter)) :
    wireTypesOf .standard = ["BOOL", "INT2", "FLOAT4", "FLOAT8", "TIMESTAMP"] ∧
    ((∃ r, build (steps.map convertersOf) = .ok r) ↔ (steps.flatMap wireTypesOf).Nodup) ∧
    (∀ r, build (steps.map convertersOf) = .ok r → Lists r (steps.flatMap convertersOf) ∧
      ∀ steps' : List (BuildStep Converter), steps'.Perm steps →
        build (steps'.map convertersOf) = .ok r) ∧
    ∀ i e, build (steps.map convertersOf) = .error (i, e) ↔
      ∃ wireType, e = .duplicateType wireType ∧
        Catalog.RepeatsFirst (steps.map wireTypesOf) i wireType := by
  simp only [build_eq, Catalog.reported_eq_ok_iff, Catalog.reported_eq_error_iff]
  refine ⟨rfl, ?_, fun r hr => ⟨lists_of_holds ?_, fun steps' hperm => ?_⟩, fun i e => ?_⟩
  · rw [Catalog.exists_build_iff, namesIn_steps, List.flatMap_def]
  · rw [← flatten_entries]
    exact Catalog.holds_of_build hr
  · refine Catalog.build_eq_of_perm hr ?_
    rw [flatten_entries, flatten_entries]
    exact (hperm.flatMap_right _).map _
  · have hdistinct : ∀ names ∈ steps.map wireTypesOf, names.Nodup := by
      intro names hnames
      obtain ⟨step, _, rfl⟩ := List.mem_map.mp hnames
      exact nodup_wireTypesOf step
    rw [← namesIn_steps] at hdistinct ⊢
    exact exists_congr fun wireType =>
      and_congr_right fun _ => Catalog.build_eq_error_iff hdistinct

/-- The standard step comes upon `INT2` first, although `TIMESTAMP` was registered before. -/
example : build ([.register (.plain "TIMESTAMP" .bool .direct),
    .register (.plain "INT2" .int16 .nullable), .standard].map convertersOf) =
      .error (2, .duplicateType "INT2") := by
  rfl

end FrameSource.ConverterRegistry
