import FrameSource.Catalog
import Mathlib.Data.List.Nodup
import Mathlib.Data.List.Perm.Basic
import Mathlib.Data.String.Basic

/-!
# What a catalog is built of

A catalog that holds given entries (`Catalog.Holds`) has these and no others, in strictly ascending
order of their names. So the entries have distinct names, a name is looked up among them, and there is
one such catalog, in whatever order the entries are given (`Holds.unique`).

Adding an entry under a new name keeps this (`Holds.add`), and so does adding a batch, up to the first
name that is taken (`Holds.addAll`). **Batches are built into the catalog of all their entries, unless
one of them brings a name again** (`build_cases`); then the first that does is reported, with the
first name in it that was there before (`FirstRepeat`).

The batches of a builder come from its steps, and the names of one step are distinct. Then what comes
again was brought by an earlier step, and the report is about the first step and the first name in it
of which that is true (`build_eq_error_iff`).
-/

namespace FrameSource

/-- A step of a builder: one entry is registered, or the standard ones are. -/
inductive BuildStep (α : Type) where
  | register (entry : α)
  | standard

/-- The entries that a step registers. -/
def BuildStep.entries {α : Type} (standard : List α) : BuildStep α → List α
  | .register entry => [entry]
  | .standard => standard

namespace Catalog

variable {α : Type} {c c' : Catalog α} {es es' : List (String × α)} {name : String} {entry : α}

/-- A catalog of given entries, in ascending order of the names. -/
structure Holds (c : Catalog α) (es : List (String × α)) : Prop where
  perm : c.entries.Perm es
  ascending : c.entries.Pairwise fun e e' => e.1 < e'.1

/-! ## Looking up -/

namespace Holds

theorem of_perm (h : c.Holds es) (hperm : es.Perm es') : c.Holds es' :=
  ⟨h.perm.trans hperm, h.ascending⟩

theorem names_ascending (h : c.Holds es) : c.names.Pairwise (· < ·) :=
  List.pairwise_map.mpr h.ascending

theorem names_perm (h : c.Holds es) : c.names.Perm (es.map Prod.fst) :=
  h.perm.map Prod.fst

theorem nodup (h : c.Holds es) : (es.map Prod.fst).Nodup :=
  h.names_perm.nodup_iff.mp (h.names_ascending.imp ne_of_lt)

/-- **There is one catalog of given entries**, whatever their order. -/
theorem unique (h : c.Holds es) (h' : c'.Holds es) : c = c' := by
  have hentries : c.entries = c'.entries :=
    List.Perm.eq_of_pairwise (fun _ _ _ _ hlt hgt => absurd hlt (lt_asymm hgt)) h.ascending
      h'.ascending (h.perm.trans h'.perm.symm)
  cases c
  cases c'
  exact congrArg Catalog.mk hentries

/-- What is found under a name is the entry that was given under it. -/
theorem find?_eq_some_iff (h : c.Holds es) : c.find? name = some entry ↔ (name, entry) ∈ es := by
  rw [← h.perm.mem_iff]
  refine ⟨mem_of_find?, fun hmem => ?_⟩
  obtain ⟨before, after, hsplit⟩ := List.append_of_mem hmem
  refine List.lookup_eq_some_iff.mpr ⟨before, after, hsplit, fun e he => ?_⟩
  have hascending := h.ascending
  rw [hsplit, List.pairwise_append] at hascending
  exact bne_iff_ne.mpr (ne_of_gt (hascending.2.2 e he _ List.mem_cons_self))

theorem find?_eq_none_iff (h : c.Holds es) : c.find? name = none ↔ name ∉ es.map Prod.fst := by
  rw [Option.eq_none_iff_forall_ne_some]
  simp only [ne_eq, h.find?_eq_some_iff, List.mem_map, Prod.exists, exists_and_right,
    exists_eq_right, not_exists]

/-- What makes adding an entry fail: its name is among those of the given entries. -/
theorem contains_iff (h : c.Holds es) : c.contains name = true ↔ name ∈ es.map Prod.fst := by
  rw [contains, Option.isSome_iff_ne_none, ne_eq, h.find?_eq_none_iff, not_not]

end Holds

/-! ## Adding -/

theorem holds_empty : (empty : Catalog α).Holds [] := ⟨.refl _, .nil⟩

/-- A new name is put between those that are less and those that are greater. -/
theorem pairwise_insertSorted (h : es.Pairwise fun e e' => e.1 < e'.1)
    (hnew : name ∉ es.map Prod.fst) (entry : α) :
    (insertSorted name entry es).Pairwise fun e e' => e.1 < e'.1 := by
  induction es with
  | nil => exact List.pairwise_singleton _ _
  | cons e es ih =>
    rw [List.map_cons, List.mem_cons, not_or] at hnew
    obtain ⟨hfirst, hrest⟩ := List.pairwise_cons.mp h
    rw [insertSorted]
    split
    · next hlt =>
      refine List.pairwise_cons.mpr ⟨fun e' he' => ?_, h⟩
      obtain rfl | he' := List.mem_cons.mp he'
      · exact hlt
      · exact lt_trans hlt (hfirst e' he')
    · next hle =>
      refine List.pairwise_cons.mpr ⟨fun e' he' => ?_, ih hrest hnew.2⟩
      obtain rfl | he' := List.mem_cons.mp ((insertSorted_perm name entry es).mem_iff.mp he')
      · exact lt_of_le_of_ne (not_lt.mp hle) (Ne.symm hnew.1)
      · exact hfirst e' he'

/-- An entry under a new name is added, and stands among those that were given before it. Where it
is put is a matter of its name, so the catalog is told as holding the entries in the order of their
adding. -/
theorem Holds.add (h : c.Holds es) (hnew : name ∉ es.map Prod.fst) (entry : α) :
    ∃ c', c.add name entry = .ok c' ∧ c'.Holds (es ++ [(name, entry)]) := by
  have hfree : c.contains name = false := Bool.eq_false_iff.mpr (mt h.contains_iff.mp hnew)
  have hnew' : name ∉ c.entries.map Prod.fst := mt h.names_perm.mem_iff.mp hnew
  refine ⟨⟨insertSorted name entry c.entries⟩, ?_, ?_, pairwise_insertSorted h.ascending hnew' entry⟩
  · rw [Catalog.add, hfree, if_neg Bool.false_ne_true]
  · have hcons := (insertSorted_perm name entry c.entries).trans (h.perm.cons _)
    exact hcons.trans (List.perm_append_singleton _ _).symm

/-- An entry under a taken name is refused, with that name, whatever the entry is. -/
theorem Holds.add_taken (h : c.Holds es) (htaken : name ∈ es.map Prod.fst) (entry : α) :
    c.add name entry = .error name := by
  rw [Catalog.add, if_pos (h.contains_iff.mpr htaken)]

/-- **A batch is added up to the first name that is taken**, by an entry of the catalog or of the
batch itself. -/
theorem Holds.addAll (h : c.Holds es) (batch : List (String × α)) :
    (∃ c', c.addAll batch = .ok c' ∧ c'.Holds (es ++ batch)) ∨
      ∃ front e back, batch = front ++ e :: back ∧ ((es ++ front).map Prod.fst).Nodup ∧
        e.1 ∈ (es ++ front).map Prod.fst ∧ c.addAll batch = .error e.1 := by
  induction batch generalizing c es with
  | nil => exact .inl ⟨c, rfl, by rwa [List.append_nil]⟩
  | cons e batch ih =>
    by_cases htaken : e.1 ∈ es.map Prod.fst
    · refine .inr ⟨[], e, batch, rfl, ?_, ?_, ?_⟩
      · rw [List.append_nil]
        exact h.nodup
      · rwa [List.append_nil]
      · rw [Catalog.addAll, h.add_taken htaken]
        rfl
    · obtain ⟨c₁, hadd, h₁⟩ := h.add htaken e.2
      have hstep : c.addAll (e :: batch) = c₁.addAll batch := by
        rw [Catalog.addAll, hadd]
        rfl
      rw [hstep]
      obtain ⟨c', hc', hholds⟩ | ⟨front, e', back, rfl, hnodup, hagain, herror⟩ := ih h₁
      · exact .inl ⟨c', hc', by rwa [List.append_assoc] at hholds⟩
      · rw [List.append_assoc] at hnodup hagain
        exact .inr ⟨e :: front, e', back, rfl, hnodup, hagain, herror⟩

/-! ## Building -/

/-- Of lists of names that are taken one after the other, list `i` is the first to bring a name again,
and `name` is the first such name in it. -/
inductive FirstRepeat : List (List String) → ℕ → String → Prop
  | mk {before after : List (List String)} {front back : List String} {name : String}
      (distinct : (before.flatten ++ front).Nodup) (again : name ∈ before.flatten ++ front) :
      FirstRepeat (before ++ (front ++ name :: back) :: after) before.length name

/-- The names in batches of entries. -/
def namesIn (batches : List (List (String × α))) : List (List String) :=
  batches.map (List.map Prod.fst)

variable {batches : List (List (String × α))}

theorem flatten_namesIn (batches : List (List (String × α))) :
    (namesIn batches).flatten = batches.flatten.map Prod.fst :=
  List.map_flatten.symm

/-- What becomes of batches that follow those already added. -/
theorem Holds.go {done : List (List (String × α))} (h : c.Holds done.flatten)
    (batches : List (List (String × α))) :
    (∃ c', build.go done.length c batches = .ok c' ∧ c'.Holds (done ++ batches).flatten) ∨
      ∃ i name, FirstRepeat (namesIn (done ++ batches)) i name ∧
        build.go done.length c batches = .error (i, name) := by
  -- Along the batches; those already built are kept beside the catalog that holds their entries.
  induction batches generalizing c done with
  | nil => exact .inl ⟨c, rfl, by rwa [List.append_nil]⟩
  | cons batch batches ih =>
    rw [build.go]
    obtain ⟨c₁, hc₁, h₁⟩ | ⟨front, e, back, rfl, hnodup, hagain, herror⟩ := h.addAll batch
    · have h₁' : c₁.Holds (done ++ [batch]).flatten := by
        rwa [List.flatten_append, List.flatten_singleton]
      have hlater := ih h₁'
      rw [hc₁]
      rwa [List.length_append, List.length_singleton, List.append_assoc] at hlater
    · rw [List.map_append, ← flatten_namesIn] at hnodup hagain
      have hrepeat : FirstRepeat (namesIn done ++ (front.map Prod.fst ++ e.1 :: back.map Prod.fst) ::
          namesIn batches) (namesIn done).length e.1 := .mk hnodup hagain
      rw [namesIn, List.length_map] at hrepeat
      refine .inr ⟨done.length, e.1, ?_, by rw [herror]⟩
      rwa [namesIn, List.map_append, List.map_cons, List.map_append, List.map_cons]

/-- **Batches are built into the catalog of their entries**, or the first repeat is reported. -/
theorem build_cases (batches : List (List (String × α))) :
    (∃ c, build batches = .ok c ∧ c.Holds batches.flatten) ∨
      ∃ i name, FirstRepeat (namesIn batches) i name ∧ build batches = .error (i, name) := by
  have hempty : (empty : Catalog α).Holds ([] : List (List (String × α))).flatten := holds_empty
  exact hempty.go batches

/-- A repeat is one: the names of all the lists together are not distinct. -/
theorem FirstRepeat.not_nodup {names : List (List String)} {i : ℕ} (h : FirstRepeat names i name) :
    ¬ names.flatten.Nodup := by
  obtain ⟨_, again⟩ := h
  intro hnodup
  rw [List.flatten_append, List.flatten_cons, List.append_assoc, ← List.append_assoc,
    List.nodup_append] at hnodup
  exact hnodup.2.2 _ again _ List.mem_cons_self rfl

theorem holds_of_build (h : build batches = .ok c) : c.Holds batches.flatten := by
  obtain ⟨c', hc', hholds⟩ | ⟨i, name, _, herror⟩ := build_cases batches
  · rw [h] at hc'
    cases hc'
    exact hholds
  · rw [h] at herror
    cases herror

/-- Building succeeds exactly if no name is brought twice. -/
theorem exists_build_iff :
    (∃ c, build batches = .ok c) ↔ (namesIn batches).flatten.Nodup := by
  constructor
  · rintro ⟨c, hc⟩
    rw [flatten_namesIn]
    exact (holds_of_build hc).nodup
  · intro hnodup
    obtain ⟨c, hc, _⟩ | ⟨i, name, hrepeat, _⟩ := build_cases batches
    · exact ⟨c, hc⟩
    · exact absurd hnodup hrepeat.not_nodup

/-- The same entries, in any order and in any batches, are built into the same catalog. -/
theorem build_eq_of_perm {batches' : List (List (String × α))} (h : build batches = .ok c)
    (hperm : batches'.flatten.Perm batches.flatten) : build batches' = .ok c := by
  have hnodup : (namesIn batches').flatten.Nodup := by
    rw [flatten_namesIn, (hperm.map Prod.fst).nodup_iff, ← flatten_namesIn]
    exact exists_build_iff.mp ⟨c, h⟩
  obtain ⟨c', hc'⟩ := exists_build_iff.mpr hnodup
  rw [hc', ((holds_of_build hc').of_perm hperm).unique (holds_of_build h)]

/-! ## Reports -/

section Reports

variable {ε β : Type} {x : Except (ℕ × String) β} {report : String → ε} {b : β} {i : ℕ} {e : ε}

/-- Turning the name of a fault into a report does not touch what is built. -/
theorem reported_eq_ok_iff : x.mapError (Prod.map id report) = .ok b ↔ x = .ok b := by
  cases x <;> simp [Except.mapError]

/-- What is reported of a batch is about the name that it brings again. -/
theorem reported_eq_error_iff : x.mapError (Prod.map id report) = .error (i, e) ↔
    ∃ name, e = report name ∧ x = .error (i, name) := by
  cases x with
  | ok b => simp [Except.mapError]
  | error fault =>
    obtain ⟨j, name⟩ := fault
    simp only [Except.mapError, Prod.map_apply, id_eq, Except.error.injEq, Prod.mk.injEq]
    constructor
    · rintro ⟨rfl, rfl⟩
      exact ⟨name, rfl, rfl, rfl⟩
    · rintro ⟨_, rfl, rfl, rfl⟩
      exact ⟨rfl, rfl⟩

end Reports

/-! ## Steps -/

/-- Step `i` of a sequence is the first to bring names of earlier steps again, and `name` is one of
them. -/
structure Repeats (steps : List (List String)) (i : ℕ) (name : String) : Prop where
  distinct : (steps.take i).flatten.Nodup
  taken : name ∈ (steps.take i).flatten
  brought : ∃ step, steps[i]? = some step ∧ name ∈ step

/-- Step `i` of a sequence is the first to bring names of earlier steps again, and `name` is the first
of them in the order of that step. -/
structure RepeatsFirst (steps : List (List String)) (i : ℕ) (name : String) : Prop where
  distinct : (steps.take i).flatten.Nodup
  first : ∃ step, steps[i]? = some step ∧
    step.find? (fun n => n ∈ (steps.take i).flatten) = some name

section Steps

variable {steps : List (List String)} {i j : ℕ} {other : String}

/-- The first of the repeated names in a step is one of them. The converse fails, as a step may
bring several. -/
theorem RepeatsFirst.repeats (h : RepeatsFirst steps i name) : Repeats steps i name := by
  obtain ⟨step, hstep, hfind⟩ := h.first
  have htaken := List.find?_some hfind
  exact ⟨h.distinct, of_decide_eq_true htaken, step, hstep, List.mem_of_find?_eq_some hfind⟩

/-- Where each step has distinct names, a name that comes again is one of an earlier step. -/
theorem FirstRepeat.repeatsFirst (h : FirstRepeat steps i name)
    (hsteps : ∀ step ∈ steps, step.Nodup) : RepeatsFirst steps i name := by
  obtain @⟨before, after, front, back, _, distinct, again⟩ := h
  have hstep : (front ++ name :: back).Nodup :=
    hsteps _ (List.mem_append_right _ List.mem_cons_self)
  have hfront : name ∉ front := fun hmem =>
    (List.nodup_append.mp hstep).2.2 _ hmem _ List.mem_cons_self rfl
  have htaken : name ∈ before.flatten := (List.mem_append.mp again).resolve_right hfront
  obtain ⟨hbefore, _, hapart⟩ := List.nodup_append.mp distinct
  refine ⟨by rwa [List.take_left], front ++ name :: back, ?_, ?_⟩
  · rw [List.getElem?_append_right le_rfl, Nat.sub_self]
    rfl
  · rw [List.take_left]
    refine List.find?_eq_some_iff_append.mpr ⟨decide_eq_true htaken, front, back, rfl, ?_⟩
    intro n hn
    rw [Bool.not_eq_true', decide_eq_false_iff_not]
    exact fun hmem => hapart n hmem n hn rfl

/-- The names up to and with the step that brings one again are not distinct. -/
theorem Repeats.not_nodup_take (h : Repeats steps i name) (hlt : i < j) :
    ¬ (steps.take j).flatten.Nodup := by
  obtain ⟨step, hstep, hname⟩ := h.brought
  have htake : steps.take (i + 1) = steps.take i ++ [step] := by
    rw [List.take_add_one, hstep]
    rfl
  obtain ⟨rest, hrest⟩ : steps.take (i + 1) <+: steps.take j := List.take_prefix_take_left hlt
  intro hnodup
  rw [← hrest, List.flatten_append] at hnodup
  have hdistinct := (List.nodup_append.mp hnodup).1
  rw [htake, List.flatten_append, List.flatten_singleton] at hdistinct
  exact (List.nodup_append.mp hdistinct).2.2 _ h.taken _ hname rfl

/-- Where a step repeats a name, the names of all steps are not distinct. -/
theorem Repeats.not_nodup (h : Repeats steps i name) : ¬ steps.flatten.Nodup := by
  obtain ⟨step, hstep, _⟩ := h.brought
  have hall := h.not_nodup_take (List.getElem?_eq_some_iff.mp hstep).1
  rwa [List.take_length] at hall

/-- There is one step that is the first to repeat a name. An earlier one would spoil the
distinctness that the later one asks for. -/
theorem Repeats.index_unique (h : Repeats steps i name) (h' : Repeats steps j other) : i = j := by
  obtain hlt | heq | hgt := Nat.lt_trichotomy i j
  · exact absurd h'.distinct (h.not_nodup_take hlt)
  · exact heq
  · exact absurd h.distinct (h'.not_nodup_take hgt)

/-- The report of a repeat is determined by the steps: which step it is about, and which name. -/
theorem RepeatsFirst.unique (h : RepeatsFirst steps i name) (h' : RepeatsFirst steps j other) :
    i = j ∧ name = other := by
  obtain rfl := h.repeats.index_unique h'.repeats
  obtain ⟨step, hstep, hfind⟩ := h.first
  obtain ⟨step', hstep', hfind'⟩ := h'.first
  obtain rfl := Option.some.inj (hstep.symm.trans hstep')
  exact ⟨rfl, Option.some.inj (hfind.symm.trans hfind')⟩

end Steps

/-- Where each batch has distinct names, building fails exactly at the first step that brings a name
again, with the first such name. -/
theorem build_eq_error_iff (hbatches : ∀ names ∈ namesIn batches, names.Nodup) {i : ℕ} :
    build batches = .error (i, name) ↔ RepeatsFirst (namesIn batches) i name := by
  obtain ⟨c, hc, hholds⟩ | ⟨j, other, hrepeat, herror⟩ := build_cases batches
  · have hnodup := exists_build_iff.mp ⟨c, hc⟩
    rw [hc]
    constructor
    · intro h
      cases h
    · intro h
      exact absurd hnodup h.repeats.not_nodup
  · have hfirst := hrepeat.repeatsFirst hbatches
    rw [herror]
    constructor
    · intro h
      cases h
      exact hfirst
    · intro h
      obtain ⟨rfl, rfl⟩ := hfirst.unique h
      rfl

end Catalog

end FrameSource
