import FrameSource.Datasource.Settings
import Mathlib.Tactic.Tauto

/-!
# Checks and their complaints

A computation that makes checks in order succeeds exactly when all of them pass, and otherwise ends
with the complaint of the first that does not. `Checked` says so of a computation, and says what
holds of its result. Checks made one after the other are the checks of both (`Checked.bind`), which
is how a longer computation is taken apart.
-/

namespace FrameSource

/-- What passes a check, and the complaints that the check may make about what does not. -/
structure Check where
  passes : Prop
  complaint : SettingsError → Prop

/-- The complaint of the first check that is not passed. -/
def FirstComplaint : List Check → SettingsError → Prop
  | [], _ => False
  | c :: cs, e => (¬ c.passes ∧ c.complaint e) ∨ (c.passes ∧ FirstComplaint cs e)

/-- A computation that makes checks in order, and whose result satisfies `post`. -/
structure Checked {α : Type} (cs : List Check) (r : Except SettingsError α) (post : α → Prop) :
    Prop where
  ok : (∃ a, r = .ok a) ↔ ∀ c ∈ cs, c.passes
  error : ∀ e, r = .error e ↔ FirstComplaint cs e
  result : ∀ a, r = .ok a → post a

/-- The first complaint of two runs of checks is one of the first run, or one of the second if the
first passes. -/
theorem firstComplaint_append {cs ds : List Check} {e : SettingsError} :
    FirstComplaint (cs ++ ds) e ↔
      FirstComplaint cs e ∨ ((∀ c ∈ cs, c.passes) ∧ FirstComplaint ds e) := by
  induction cs with
  | nil => simp [FirstComplaint]
  | cons c cs ih =>
    rw [List.cons_append, FirstComplaint, FirstComplaint, ih, List.forall_mem_cons]
    tauto

theorem not_firstComplaint {cs : List Check} {e : SettingsError} (h : ∀ c ∈ cs, c.passes) :
    ¬ FirstComplaint cs e := by
  induction cs with
  | nil => exact id
  | cons c cs ih =>
    obtain ⟨hc, hcs⟩ := List.forall_mem_cons.mp h
    rintro (⟨hnot, _⟩ | ⟨_, hfirst⟩)
    · exact hnot hc
    · exact ih hcs hfirst

namespace Checked

variable {α β : Type} {cs ds : List Check} {r : Except SettingsError α} {post : α → Prop}

theorem pure {a : α} (h : post a) : Checked [] (.ok a) post := by
  refine ⟨⟨fun _ _ hc => (List.not_mem_nil hc).elim, fun _ => ⟨a, rfl⟩⟩, ?_, ?_⟩
  · intro e
    constructor
    · intro herror
      cases herror
    · intro hfirst
      cases hfirst
  · intro b hb
    cases hb
    exact h

/-- Checks that are made one after the other. -/
theorem bind {f : α → Except SettingsError β} {post' : β → Prop} (h : Checked cs r post)
    (hf : ∀ a, post a → Checked ds (f a) post') : Checked (cs ++ ds) (r >>= f) post' := by
  -- The first run of checks decides whether the second is made at all.
  cases r with
  | ok a =>
    have hall := h.ok.mp ⟨a, rfl⟩
    have hrest := hf a (h.result a rfl)
    refine ⟨?_, ?_, hrest.result⟩
    · rw [List.forall_mem_append]
      exact hrest.ok.trans (and_iff_right hall).symm
    · intro e
      rw [firstComplaint_append]
      refine (hrest.error e).trans ⟨fun hfirst => Or.inr ⟨hall, hfirst⟩, ?_⟩
      rintro (hfirst | ⟨_, hfirst⟩)
      · exact absurd hfirst (not_firstComplaint hall)
      · exact hfirst
  | error e =>
    have hnot : ¬ ∀ c ∈ cs, c.passes := fun hall => by
      obtain ⟨a, ha⟩ := h.ok.mpr hall
      cases ha
    refine ⟨⟨?_, ?_⟩, ?_, ?_⟩
    · rintro ⟨b, hb⟩
      cases hb
    · intro hall
      exact absurd (List.forall_mem_append.mp hall).1 hnot
    · intro e'
      rw [firstComplaint_append]
      have hfirst : FirstComplaint cs e' ↔ e = e' := by
        rw [← h.error e', Except.error.injEq]
      constructor
      · intro heq
        cases heq
        exact Or.inl (hfirst.mpr rfl)
      · rintro (hcs | ⟨hall, _⟩)
        · rw [hfirst.mp hcs]
          rfl
        · exact absurd hall hnot
    · intro b hb
      cases hb

/-- A check in front of a computation: the shape of a loader that reads its fields one after the
other. -/
theorem next {c : Check} {f : α → Except SettingsError β} {post' : β → Prop}
    (h : Checked [c] r post) (hf : ∀ a, post a → Checked ds (f a) post') :
    Checked (c :: ds) (r >>= f) post' :=
  h.bind hf

/-- A single check. -/
theorem single {c : Check} (hpass : c.passes → ∃ a, r = .ok a ∧ post a)
    (hfail : ¬ c.passes → ∃ e, r = .error e ∧ ∀ e', c.complaint e' ↔ e' = e) :
    Checked [c] r post := by
  by_cases hc : c.passes
  · obtain ⟨a, rfl, ha⟩ := hpass hc
    refine ⟨⟨fun _ => List.forall_mem_singleton.mpr hc, fun _ => ⟨a, rfl⟩⟩, ?_, ?_⟩
    · intro e
      constructor
      · intro herror
        cases herror
      · intro hfirst
        exact absurd hfirst (not_firstComplaint (List.forall_mem_singleton.mpr hc))
    · intro b hb
      cases hb
      exact ha
  · obtain ⟨e, rfl, he⟩ := hfail hc
    refine ⟨⟨?_, ?_⟩, ?_, ?_⟩
    · rintro ⟨a, ha⟩
      cases ha
    · intro hall
      exact absurd (hall c (List.mem_singleton_self c)) hc
    · intro e'
      constructor
      · intro heq
        cases heq
        exact Or.inl ⟨hc, (he e).mpr rfl⟩
      · rintro (⟨_, hcomplaint⟩ | ⟨hpasses, _⟩)
        · rw [(he e').mp hcomplaint]
        · exact absurd hpasses hc
    · intro a ha
      cases ha

/-- A check that is made before others. -/
theorem guard {c : Check} {p : Prop} [Decidable p] {e : SettingsError} (hp : p ↔ ¬ c.passes)
    (hc : ∀ e', c.complaint e' ↔ e' = e) (h : Checked cs r post) :
    Checked (c :: cs) (if p then .error e else r) post := by
  have hfirst : Checked [c] (if p then .error e else .ok ()) fun _ => True := by
    apply single
    · intro hpasses
      exact ⟨(), if_neg fun hp' => hp.mp hp' hpasses, trivial⟩
    · intro hnot
      exact ⟨e, if_pos (hp.mpr hnot), hc⟩
  have hsequence : (if p then .error e else r) =
      (if p then .error e else .ok () : Except SettingsError Unit) >>= fun _ => r := by
    split <;> rfl
  rw [hsequence]
  exact hfirst.bind fun _ _ => h

end Checked

end FrameSource
