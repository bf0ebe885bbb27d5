import FrameSource.Proofs.Alignment
import FrameSource.Proofs.Query.Expansion

/-!
# What an expansion comes to

A template that is taken apart has one of two outcomes: every invocation gives its text, or there is
a first one that fails. `Outcome` has a constructor for each, with the calls that are made, and
`outcome_expand` says that an expansion is one of them. Laws about expansions go from the outcome of
one template to the outcome of another, whose decomposition they know.
-/

namespace FrameSource.Vocabulary

open Template

variable {v : Vocabulary} {ctx : QueryContext}

/-! ## Invocations that end -/

theorem Gives.ended {i : Invocation} {text : String} (h : v.Gives ctx i (.ok text)) :
    i.args ≠ none := by
  generalize hr : Except.ok text = r at h
  cases h with
  | unended => cases hr
  | called hargs _ =>
    rw [hargs]
    exact Option.some_ne_none _

/-- What an invocation gives is the answer to its call, if it makes one. -/
theorem Gives.answer_eq {i : Invocation} {r : Except ExpansionError String} {call : Call}
    (h : v.Gives ctx i r) (hcall : callOf? i = some call) :
    v.answer ctx call.name call.args = r := by
  cases h with
  | unended hargs =>
    rw [callOf?, hargs] at hcall
    cases hcall
  | called hargs hfind =>
    rw [callOf?, hargs] at hcall
    cases hcall
    simp only [answer, hfind]

/-- An invocation gives one thing. -/
theorem Gives.unique {i : Invocation} {r r' : Except ExpansionError String} (h : v.Gives ctx i r)
    (h' : v.Gives ctx i r') : r = r' := by
  cases h with
  | unended hargs =>
    cases h' with
    | unended => rfl
    | called hargs' => cases hargs.symm.trans hargs'
  | called hargs hfind =>
    cases h' with
    | unended hargs' => cases hargs.symm.trans hargs'
    | called hargs' hfind' =>
      obtain rfl := Option.some.inj (hargs.symm.trans hargs')
      obtain rfl := Option.some.inj (hfind.symm.trans hfind')
      rfl

/-- Of a template that expands, every argument list has an end. -/
theorem AllGive.ended {is : List Invocation} {texts : List String} (h : AllGive v ctx is texts) :
    ∀ i ∈ is, i.args ≠ none := by
  intro i hi
  obtain ⟨text, _, hgives⟩ := forall₂_exists_right h hi
  exact hgives.ended

/-! ## Outcomes -/

/-- The result of expanding a template that falls apart as `d` does, and the calls that are made. -/
inductive Outcome (v : Vocabulary) (ctx : QueryContext) (d : Decomposition) :
    Except ExpansionError String → List Call → Prop
  /-- The texts that the invocations give take the places of their spans. -/
  | spliced {texts : List String} (all : AllGive v ctx d.invocations texts) :
    Outcome v ctx d (.ok (String.ofList (d.splice texts))) (d.invocations.filterMap callOf?)
  /-- The first invocation that fails is the last one that is looked at. -/
  | failed {before after : List Invocation} {i : Invocation} {texts : List String}
      {e : ExpansionError} (split : d.invocations = before ++ i :: after)
      (all : AllGive v ctx before texts) (fails : v.Gives ctx i (.error e)) :
    Outcome v ctx d (.error e) ((before ++ [i]).filterMap callOf?)

variable {template : String} {d : Decomposition} {r : Except ExpansionError String}
  {made : List Call}

/-- An outcome is what the expansion comes to. The scanner's own decomposition has its literal texts
cut up, but merging them changes neither the result nor the calls. -/
theorem Outcome.expand_eq (h : Outcome v ctx d r made)
    (hd : Decomposes v.contains template.toList d) :
    v.expand template ctx = r ∧ v.calls template ctx = made := by
  obtain ⟨d', hd', hmerges⟩ := exists_decomposes v.contains template.toList
  obtain rfl := hd'.unique hd
  have hrun := evaluateAllThrough_merges (v.recorded ctx) hmerges []
  rw [expand_eq_recorded, calls, hrun]
  cases h with
  | spliced all =>
    rw [run_of_allGive d'.last all]
    exact ⟨rfl, List.nil_append _⟩
  | failed split all fails =>
    rw [run_of_first_error d'.last split all fails]
    exact ⟨rfl, List.nil_append _⟩

/-- **An expansion is an outcome of its template.** -/
theorem outcome_expand (ctx : QueryContext) (hd : Decomposes v.contains template.toList d) :
    Outcome v ctx d (v.expand template ctx) (v.calls template ctx) := by
  have h : ∃ r made, Outcome v ctx d r made := by
    rcases allGive_or_first_error (exists_gives hd) with
      ⟨texts, all⟩ | ⟨before, i, after, texts, e, split, all, fails⟩
    · exact ⟨_, _, .spliced all⟩
    · exact ⟨_, _, .failed split all fails⟩
  obtain ⟨r, made, h⟩ := h
  obtain ⟨hr, hmade⟩ := h.expand_eq hd
  rwa [hr, hmade]

/-- What a successful expansion says of the decomposition, and that every invocation was called. -/
theorem Outcome.exists_texts {text : String} (h : Outcome v ctx d (.ok text) made) :
    ∃ texts, AllGive v ctx d.invocations texts ∧ text = String.ofList (d.splice texts) ∧
      made = d.invocations.filterMap callOf? := by
  cases h with
  | spliced all => exact ⟨_, all, rfl, rfl⟩

/-- What a failed expansion says: which invocation failed, and that none after it was called. -/
theorem Outcome.exists_first_error {e : ExpansionError} (h : Outcome v ctx d (.error e) made) :
    ∃ before i after texts, d.invocations = before ++ i :: after ∧ AllGive v ctx before texts ∧
      v.Gives ctx i (.error e) ∧ made = (before ++ [i]).filterMap callOf? := by
  cases h with
  | failed split all fails => exact ⟨_, _, _, _, split, all, fails, rfl⟩

/-- A query over the first minute of the epoch, by the second. -/
def firstMinute : QueryContext :=
  ⟨⟨⟨0, 0⟩, ⟨60, 0⟩⟩, .ofSeconds 1 0⟩

end FrameSource.Vocabulary
