import Mathlib.Data.List.Forall2

/-!
# Aligned lists

Decoding keeps lists in step: rows with the values of a column, kept columns with the columns of a
frame, items of a document with cells. That is `List.Forall₂` throughout. Here is how one goes from
an alignment to its members and positions and back, and how the lists that a traversal yields are
aligned with the one that it traverses.
-/

namespace FrameSource

variable {α β γ : Type} {R : α → β → Prop} {as : List α} {bs : List β}

/-! ## Members and positions -/

/-- A member of the second list has a partner in the first. Facts about the columns of a frame come
this way from the registry or the document that they were aligned with. -/
theorem forall₂_exists_left (h : List.Forall₂ R as bs) {b : β} (hb : b ∈ bs) :
    ∃ a ∈ as, R a b := by
  induction h with
  | nil => cases hb
  | @cons a b' as bs hab _ ih =>
    rcases List.mem_cons.mp hb with rfl | hb
    · exact ⟨a, List.mem_cons_self, hab⟩
    · obtain ⟨a', ha', hr⟩ := ih hb
      exact ⟨a', List.mem_cons_of_mem a ha', hr⟩

theorem forall₂_exists_right (h : List.Forall₂ R as bs) {a : α} (ha : a ∈ as) : ∃ b ∈ bs, R a b :=
  forall₂_exists_left h.flip ha

/-- Partners stand at the same position, so that what is told of one list by position may be told of
the other. -/
theorem forall₂_getElem? (h : List.Forall₂ R as bs) {i : Nat} {a : α} (ha : as[i]? = some a) :
    ∃ b, bs[i]? = some b ∧ R a b := by
  induction h generalizing i with
  | nil => cases ha
  | @cons a' b as bs hab _ ih =>
    cases i with
    | zero =>
      obtain rfl := Option.some.inj ha
      exact ⟨b, rfl, hab⟩
    | succ i => exact ih ha

/-- What is known of the members of the first list may be used at each place. -/
theorem forall₂_imp_mem {S : α → β → Prop} (h : List.Forall₂ R as bs)
    (himp : ∀ a ∈ as, ∀ b, R a b → S a b) : List.Forall₂ S as bs := by
  have hmem : List.Forall₂ (fun a b => a ∈ as ∧ R a b) as bs :=
    (List.forall₂_and_left _ _).mpr ⟨fun _ ha => ha, h⟩
  exact hmem.imp fun a b hab => himp a hab.1 b hab.2

/-- Two lists that go along with a third go along with each other. -/
theorem forall₂_of_common {S : α → γ → Prop} {T : β → γ → Prop}
    (hT : ∀ a b c, R a b → S a c → T b c) {cs : List γ}
    (hR : List.Forall₂ R as bs) (hS : List.Forall₂ S as cs) : List.Forall₂ T bs cs := by
  induction hR generalizing cs with
  | nil =>
    cases hS
    exact .nil
  | cons hab _ ih =>
    cases hS with
    | cons hac hS => exact .cons (hT _ _ _ hab hac) (ih hS)

theorem forall₂_set (h : List.Forall₂ R as bs) {a : α} {b : β} (hab : R a b) (i : Nat) :
    List.Forall₂ R (as.set i a) (bs.set i b) := by
  induction h generalizing i with
  | nil => exact .nil
  | cons hhead htail ih =>
    cases i with
    | zero => exact .cons hab htail
    | succ i => exact .cons hhead (ih i)

/-- Both lists may be changed at one position. The two relations may differ: what held of all
members before is only asked to imply what holds of all of them after. -/
theorem forall₂_modify {S : α → β → Prop} (h : List.Forall₂ R as bs) {f : α → α} {g : β → β}
    (himp : ∀ a b, R a b → S a b) (hstep : ∀ a b, R a b → S (f a) (g b)) (i : Nat) :
    List.Forall₂ S (as.modify i f) (bs.modify i g) := by
  induction h generalizing i with
  | nil => cases i <;> exact .nil
  | cons hhead htail ih =>
    cases i with
    | zero => exact .cons (hstep _ _ hhead) (htail.imp himp)
    | succ i => exact .cons (himp _ _ hhead) (ih i)

/-! ## Traversals -/

section Traversals

variable {g : α → Option β}

/-- A traversal that succeeds yields a list in step with the one that it traverses. -/
theorem forall₂_of_mapM (h : as.mapM g = some bs) :
    List.Forall₂ (fun a b => g a = some b) as bs := by
  induction as generalizing bs with
  | nil =>
    obtain rfl := Option.some.inj h
    exact .nil
  | cons a as ih =>
    rw [List.mapM_cons] at h
    obtain ⟨b, hb, h⟩ := Option.bind_eq_some_iff.mp h
    obtain ⟨rest, hrest, h⟩ := Option.bind_eq_some_iff.mp h
    obtain rfl := Option.some.inj h
    exact .cons hb (ih hrest)

/-- The converse of `forall₂_of_mapM`: a list that is in step is the one that the traversal yields,
so the relation may be used in either direction. -/
theorem mapM_of_forall₂ (h : List.Forall₂ (fun a b => g a = some b) as bs) : as.mapM g = some bs := by
  induction h with
  | nil => rfl
  | cons hab _ ih =>
    rw [List.mapM_cons, hab, ih]
    rfl

/-- A traversal fails only at a member at which its function does. -/
theorem exists_mapM (h : ∀ a ∈ as, ∃ b, g a = some b) : ∃ bs, as.mapM g = some bs := by
  induction as with
  | nil => exact ⟨[], rfl⟩
  | cons a as ih =>
    obtain ⟨b, hb⟩ := h a List.mem_cons_self
    obtain ⟨bs, hbs⟩ := ih fun a ha => h a (List.mem_cons_of_mem _ ha)
    exact ⟨b :: bs, by rw [List.mapM_cons, hb, hbs]; rfl⟩

/-- Where the function is defined on every member, filtering drops none of them and keeps the lists
in step. -/
theorem forall₂_filterMap (h : ∀ a ∈ as, ∃ b, g a = some b) :
    List.Forall₂ (fun a b => g a = some b) as (as.filterMap g) := by
  induction as with
  | nil => exact .nil
  | cons a as ih =>
    obtain ⟨b, hb⟩ := h a List.mem_cons_self
    rw [List.filterMap_cons_some hb]
    exact .cons hb (ih fun a ha => h a (List.mem_cons_of_mem _ ha))

end Traversals

/-- A search depends on the answers alone: two aligned lists with equal answers are searched with
the same result. -/
theorem findSome?_congr_forall₂ {f : α → Option γ} {g : β → Option γ}
    (h : List.Forall₂ (fun a b => f a = g b) as bs) : as.findSome? f = bs.findSome? g := by
  induction h with
  | nil => rfl
  | cons hhead _ ih => rw [List.findSome?_cons, List.findSome?_cons, hhead, ih]

/-- Related options are both empty, or hold related values. -/
theorem optionRel_cases {S : γ → γ → Prop} {x y : Option γ} (h : Option.Rel S x y) :
    (x = none ∧ y = none) ∨ ∃ a b, x = some a ∧ y = some b ∧ S a b := by
  cases h with
  | none => exact Or.inl ⟨rfl, rfl⟩
  | some h => exact Or.inr ⟨_, _, rfl, rfl, h⟩

theorem isSome_eq_of_rel {S : γ → γ → Prop} {x y : Option γ} (h : Option.Rel S x y) :
    x.isSome = y.isSome := by
  cases h <;> rfl

/-- Searches along two aligned lists stop at the same place, with related hits. -/
theorem findSome?_rel_forall₂ {S : γ → γ → Prop} {f : α → Option γ} {g : β → Option γ}
    (h : List.Forall₂ (fun a b => Option.Rel S (f a) (g b)) as bs) :
    Option.Rel S (as.findSome? f) (bs.findSome? g) := by
  induction h with
  | nil => exact .none
  | cons hhead _ ih =>
    rw [List.findSome?_cons, List.findSome?_cons]
    obtain ⟨hf, hg⟩ | ⟨_, _, hf, hg, hhit⟩ := optionRel_cases hhead
    · rw [hf, hg]
      exact ih
    · rw [hf, hg]
      exact .some hhit

/-! ## Numbered members -/

theorem forall₂_zipIdx (as : List α) :
    List.Forall₂ (fun (p : α × Nat) a => p.1 = a ∧ as[p.2]? = some a) as.zipIdx as := by
  have hself : List.Forall₂ (fun (p : α × Nat) a => p.1 = a ∧ as[p.2]? = some a) as.zipIdx
      (as.zipIdx.map Prod.fst) := by
    rw [List.forall₂_map_right_iff, List.forall₂_same]
    intro p hp
    exact ⟨rfl, List.mem_zipIdx_iff_getElem?.mp hp⟩
  rwa [List.zipIdx_map_fst] at hself

theorem forall₂_range (as : List α) :
    List.Forall₂ (fun i a => as[i]? = some a) (List.range as.length) as := by
  have hsnd : List.Forall₂ (fun i a => as[i]? = some a) (as.zipIdx.map Prod.snd) as := by
    rw [List.forall₂_map_left_iff]
    exact (forall₂_zipIdx as).imp fun _ _ h => h.2
  rwa [List.zipIdx_map_snd, ← List.range_eq_range'] at hsnd

end FrameSource
