import FrameSource.Proofs.Catalog
import FrameSource.Proofs.Query.Registration
import FrameSource.Proofs.Text.ByteOrder

/-!
# Building a vocabulary

A vocabulary is built in steps: a step registers one expander under any name, or the standard ones,
which come from a table and so in no particular order. `Vocabulary.Arranged` is a choice of these
orders, and every law here is stated for all of them.

**The names that the steps bring decide what comes of it** (`build_arranged`). If all are distinct,
every name is bound to the expander that was registered under it (`Vocabulary.Binds`), and the order
of the steps leaves no trace. Otherwise the first step that brings a name again is reported, with such
a name; which one, if there are several, is up to the order.

An expansion sees a vocabulary through its bindings alone (`expand_congr`).
-/

namespace FrameSource

/-! ## Steps up to the order of their names -/

namespace Catalog

variable {steps steps' : List (List String)} {i : ℕ} {name : String}

/-- The order of names within the steps does not matter for which step is the first to repeat one. -/
theorem Repeats.of_forall₂ (h : Repeats steps i name) (hperm : List.Forall₂ List.Perm steps steps') :
    Repeats steps' i name := by
  have htake := List.Perm.flatten_congr (List.forall₂_take i hperm)
  obtain ⟨step, hstep, hname⟩ := h.brought
  obtain ⟨step', hstep', hnames⟩ := forall₂_getElem? hperm hstep
  exact ⟨htake.nodup_iff.mp h.distinct, htake.mem_iff.mp h.taken, step', hstep',
    hnames.mem_iff.mp hname⟩

end Catalog

namespace Vocabulary

/-- The expanders that a step registers, under their names. -/
def expandersOf (step : BuildStep (String × Expander)) : List (String × Expander) :=
  step.entries Expander.standard

/-- The names that a step registers expanders under. -/
def namesOf (step : BuildStep (String × Expander)) : List String :=
  (expandersOf step).map Prod.fst

/-- Batches that bring the expanders of steps, those of each step in some order. -/
def Arranged : List (List (String × Expander)) → List (BuildStep (String × Expander)) → Prop :=
  List.Forall₂ fun batch step => batch.Perm (expandersOf step)

/-- A vocabulary in which given expanders are bound to their names, and no others. -/
structure Binds (v : Vocabulary) (es : List (String × Expander)) : Prop where
  names : v.names.Perm (es.map Prod.fst)
  ascending : v.names.Pairwise fun name name' => Text.bytes name < Text.bytes name'
  bound : ∀ name expander, v.find? name = some expander ↔ (name, expander) ∈ es

variable {v w : Vocabulary} {batches : List (List (String × Expander))}
  {steps : List (BuildStep (String × Expander))} {i : ℕ} {e : ExpansionError} {name : String}

/-! ## Vocabularies and catalogs -/

theorem binds_of_holds {es : List (String × Expander)} (h : Catalog.Holds v es) : v.Binds es where
  names := h.names_perm
  ascending := h.names_ascending.imp Text.bytes_lt_bytes
  bound _ _ := h.find?_eq_some_iff

/-- A vocabulary is built as a catalog; its error has a form of its own. -/
theorem build_eq (batches : List (List (String × Expander))) :
    build batches = (Catalog.build batches).mapError (Prod.map id .duplicateName) := by
  rw [build]
  cases Catalog.build batches <;> rfl

theorem build_eq_ok_iff : build batches = .ok v ↔ Catalog.build batches = .ok v := by
  rw [build_eq, Catalog.reported_eq_ok_iff]

theorem build_eq_error_iff : build batches = .error (i, e) ↔
    ∃ name, e = .duplicateName name ∧ Catalog.build batches = .error (i, name) := by
  rw [build_eq, Catalog.reported_eq_error_iff]

/-- Vocabularies with the same bindings expand every template alike, with the same calls. -/
theorem expand_congr (h : ∀ name, w.find? name = v.find? name) (template : String)
    (ctx : QueryContext) :
    w.expand template ctx = v.expand template ctx ∧
      w.calls template ctx = v.calls template ctx := by
  have hcontains : w.contains = v.contains := funext fun name => by
    rw [Catalog.contains, Catalog.contains, h name]
  obtain ⟨d, hd, _⟩ := Template.exists_decomposes v.contains template.toList
  have houtcome := (outcome_expand ctx hd).transfer fun i _ => h i.name
  rw [← hcontains] at hd
  exact houtcome.expand_eq hd

/-! ## Arrangements -/

/-- The names of one step are distinct, for the standard step too. What comes again was there before
the step. -/
theorem nodup_namesOf (step : BuildStep (String × Expander)) : (namesOf step).Nodup := by
  cases step with
  | register e => exact List.nodup_singleton _
  | standard => decide

theorem Arranged.namesIn (h : Arranged batches steps) :
    List.Forall₂ List.Perm (Catalog.namesIn batches) (steps.map namesOf) := by
  rw [Catalog.namesIn, List.forall₂_map_left_iff, List.forall₂_map_right_iff]
  exact h.imp fun _ _ hperm => hperm.map Prod.fst

/-- The order in which the standard expanders come does not make any of their names come twice. -/
theorem Arranged.nodup_names (h : Arranged batches steps) :
    ∀ names ∈ Catalog.namesIn batches, names.Nodup := by
  intro names hnames
  obtain ⟨names', hnames', hperm⟩ := forall₂_exists_right h.namesIn hnames
  obtain ⟨step, _, rfl⟩ := List.mem_map.mp hnames'
  exact hperm.nodup_iff.mpr (nodup_namesOf step)

theorem Arranged.flatten_perm (h : Arranged batches steps) :
    batches.flatten.Perm (steps.flatMap expandersOf) := by
  rw [List.flatMap_def]
  exact List.Perm.flatten_congr (List.forall₂_map_right_iff.mpr h)

/-- Whether a vocabulary can be built does not depend on the order of the standard expanders. -/
theorem Arranged.exists_build_iff (h : Arranged batches steps) :
    (∃ v, build batches = .ok v) ↔ (steps.flatMap namesOf).Nodup := by
  simp only [build_eq_ok_iff, Catalog.exists_build_iff, List.flatMap_def]
  exact (List.Perm.flatten_congr h.namesIn).nodup_iff

/-- The step that is reported does not depend on that order, and the name is one that the step
repeats. Which of several it is may depend on it. -/
theorem Arranged.repeats_of_build (h : Arranged batches steps) (hbuild : build batches = .error (i, e)) :
    ∃ name, e = .duplicateName name ∧ Catalog.Repeats (steps.map namesOf) i name := by
  obtain ⟨name, he, herror⟩ := build_eq_error_iff.mp hbuild
  have hfirst := (Catalog.build_eq_error_iff h.nodup_names).mp herror
  exact ⟨name, he, hfirst.repeats.of_forall₂ h.namesIn⟩

theorem arranged_map (steps : List (BuildStep (String × Expander))) :
    Arranged (steps.map expandersOf) steps :=
  List.forall₂_map_left_iff.mpr (List.forall₂_same.mpr fun _ _ => .refl _)

/-- A name that comes again is reported if its step brings it before its other names. -/
theorem exists_arranged (h : Catalog.Repeats (steps.map namesOf) i name) :
    ∃ batches, Arranged batches steps ∧ build batches = .error (i, .duplicateName name) := by
  obtain ⟨names, hnames, hname⟩ := h.brought
  rw [List.getElem?_map] at hnames
  obtain ⟨step, hstep, rfl⟩ := Option.map_eq_some_iff.mp hnames
  obtain ⟨entry, hentry, rfl⟩ := List.mem_map.mp hname
  obtain ⟨front, back, hsplit⟩ := List.append_of_mem hentry
  -- Only the reported step is put into another order, with the name in front.
  have hperm : (entry :: (front ++ back)).Perm (expandersOf step) := by
    rw [hsplit]
    exact List.perm_middle.symm
  obtain ⟨hlt, hget⟩ := List.getElem?_eq_some_iff.mp hstep
  have harranged : Arranged ((steps.map expandersOf).set i (entry :: (front ++ back))) steps := by
    have hset := forall₂_set (arranged_map steps) hperm i
    rwa [← hget, List.set_getElem_self] at hset
  have hbefore : (Catalog.namesIn ((steps.map expandersOf).set i (entry :: (front ++ back)))).take i =
      (steps.map namesOf).take i := by
    rw [Catalog.namesIn, List.map_set, List.take_set_of_le le_rfl, List.map_map]
    rfl
  refine ⟨_, harranged, build_eq_error_iff.mpr ⟨_, rfl, ?_⟩⟩
  rw [Catalog.build_eq_error_iff harranged.nodup_names]
  refine ⟨?_, entry.1 :: (front ++ back).map Prod.fst, ?_, ?_⟩
  · rw [hbefore]
    exact h.distinct
  · have hlt' : i < (steps.map expandersOf).length := by rwa [List.length_map]
    rw [Catalog.namesIn, List.getElem?_map, List.getElem?_set_self hlt']
    rfl
  · rw [hbefore]
    exact List.find?_cons_of_pos (decide_eq_true h.taken)

/-- **Building a vocabulary.** It is built exactly if no name is registered twice, in whatever order
the standard expanders come. If it is not built, that is the fault of the first step that registers a
name again; the fault names a name of that step that was registered before it, and any such name in
some order. What is built binds the expanders that were registered. Another order of the steps builds
the same, and whatever has the same bindings expands every template alike. -/
theorem build_arranged (steps : List (BuildStep (String × Expander))) :
    (∀ batches, Arranged batches steps →
      ((∃ v, build batches = .ok v) ↔ (steps.flatMap namesOf).Nodup)) ∧
    (∀ i e, (∃ batches, Arranged batches steps ∧ build batches = .error (i, e)) ↔
      ∃ name, e = .duplicateName name ∧ Catalog.Repeats (steps.map namesOf) i name) ∧
    ∀ batches v, Arranged batches steps → build batches = .ok v →
      v.Binds (steps.flatMap expandersOf) ∧
      (∀ steps' batches', steps'.Perm steps → Arranged batches' steps' →
        build batches' = .ok v) ∧
      ∀ w : Vocabulary, (∀ name, w.find? name = v.find? name) → ∀ template ctx,
        w.expand template ctx = v.expand template ctx ∧
          w.calls template ctx = v.calls template ctx := by
  refine ⟨fun _ h => h.exists_build_iff, ?_, ?_⟩
  · intro i e
    constructor
    · rintro ⟨batches, harranged, herror⟩
      exact harranged.repeats_of_build herror
    · rintro ⟨name, rfl, hrepeats⟩
      exact exists_arranged hrepeats
  · intro batches v harranged hv
    rw [build_eq_ok_iff] at hv
    have hholds := (Catalog.holds_of_build hv).of_perm harranged.flatten_perm
    refine ⟨binds_of_holds hholds, fun steps' batches' hsteps harranged' => ?_,
      fun w hw => expand_congr hw⟩
    rw [build_eq_ok_iff]
    have hperm := harranged'.flatten_perm.trans (hsteps.flatMap_right expandersOf)
    exact Catalog.build_eq_of_perm hv (hperm.trans harranged.flatten_perm.symm)

end Vocabulary

end FrameSource
