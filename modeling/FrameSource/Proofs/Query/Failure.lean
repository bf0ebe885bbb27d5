import FrameSource.Proofs.Query.Registration
import FrameSource.Proofs.Query.Settling

/-!
# How a standard expansion fails

The standard expanders write the query's time range and interval, but whether they can write
anything does not depend on either. `Invocation.Faulty` says what can be wrong with an invocation of
a standard name, without a context: its argument list has no end, or it is `timeFilter` with other
than one argument. An invocation fails in a context exactly if it is faulty (`gives_error_iff`).

**A standard expansion fails with the leftmost fault of its template** (`expand_standard_error_iff`),
in every context alike; and in every context it makes the same calls, so that what one expander
writes has no influence on which others are called.
-/

namespace FrameSource.Template

/-- What is wrong with an invocation of a standard name. -/
inductive Invocation.Faulty (i : Invocation) : ExpansionError → Prop
  /-- The argument list has no end. -/
  | unended (hargs : i.args = none) : i.Faulty (.unterminatedArguments i.name)
  /-- A time filter is about one column. -/
  | miscounted {args : List String} (hname : i.name = "timeFilter") (hargs : i.args = some args)
      (hcount : args.length ≠ 1) : i.Faulty (.badArgumentCount "timeFilter" 1 args.length)

/-- The leftmost faulty invocation has this fault. -/
def FirstFault (is : List Invocation) (e : ExpansionError) : Prop :=
  ∃ before i after, is = before ++ i :: after ∧ (∀ j ∈ before, ∀ e', ¬ j.Faulty e') ∧ i.Faulty e

end FrameSource.Template

namespace FrameSource.Vocabulary

open Template

variable {ctx : QueryContext} {i : Invocation} {e : ExpansionError}

/-! ## One invocation -/

/-- A time filter writes its predicate if it has one argument, and counts its arguments if not. -/
theorem timeFilter_eq_error_iff {args : List String} :
    Expander.timeFilter ctx args = .error e ↔
      args.length ≠ 1 ∧ e = .badArgumentCount "timeFilter" 1 args.length := by
  match args with
  | [] | _ :: _ :: _ => simp [Expander.timeFilter, eq_comm]
  | [_] => simp [Expander.timeFilter]

theorem find?_timeFilter : standard.find? "timeFilter" = some Expander.timeFilter := rfl

/-- **An invocation of a standard name fails exactly if it is faulty**, with its fault. -/
theorem gives_error_iff : standard.Gives ctx i (.error e) ↔ i.Faulty e := by
  constructor
  · intro h
    generalize hr : Except.error e = r at h
    cases h with
    | unended hargs =>
      obtain rfl := Except.error.inj hr
      exact .unended hargs
    | @called args expander hargs hfind =>
      rcases find?_standard_cases hfind with ⟨_, rfl⟩ | ⟨_, rfl⟩ | ⟨hname, rfl⟩ | ⟨_, rfl⟩
      · cases hr
      · cases hr
      · obtain ⟨hcount, rfl⟩ := timeFilter_eq_error_iff.mp hr.symm
        exact .miscounted hname hargs hcount
      · cases hr
  · intro h
    cases h with
    | unended hargs => exact .unended hargs
    | @miscounted args hname hargs hcount =>
      have hfind : standard.find? i.name = some Expander.timeFilter := hname ▸ find?_timeFilter
      have hgives : standard.Gives ctx i (Expander.timeFilter ctx args) := .called hargs hfind
      rwa [timeFilter_eq_error_iff.mpr ⟨hcount, rfl⟩] at hgives

/-! ## A template -/

theorem AllGive.faultless {is : List Invocation} {texts : List String}
    (h : AllGive standard ctx is texts) : ∀ i ∈ is, ∀ e, ¬ i.Faulty e := by
  intro i hi e hfault
  obtain ⟨text, _, hgives⟩ := forall₂_exists_right h hi
  cases hgives.unique (gives_error_iff.mpr hfault)

/-- Invocations without fault give their texts in every context. -/
theorem exists_allGive {is : List Invocation} (hknown : ∀ i ∈ is, standard.contains i.name = true)
    (h : ∀ i ∈ is, ∀ e, ¬ i.Faulty e) (ctx : QueryContext) :
    ∃ texts, AllGive standard ctx is texts := by
  have hgives : ∀ i ∈ is, ∃ r, standard.Gives ctx i r := fun i hi => Gives.exists (hknown i hi)
  rcases allGive_or_first_error hgives with hall | ⟨before, i, after, _, e, rfl, _, hi⟩
  · exact hall
  · exact absurd (gives_error_iff.mp hi) (h i (by simp) e)

section Template

variable {template : String} {d : Decomposition}

/-- A standard expansion fails with the leftmost fault, whatever the context. -/
theorem expand_eq_error_iff (hd : Decomposes standard.contains template.toList d)
    (ctx : QueryContext) :
    standard.expand template ctx = .error e ↔ FirstFault d.invocations e := by
  constructor
  · intro h
    have houtcome := outcome_expand ctx hd
    rw [h] at houtcome
    obtain ⟨before, i, after, texts, split, all, fails, _⟩ := houtcome.exists_first_error
    exact ⟨before, i, after, split, all.faultless, gives_error_iff.mp fails⟩
  · rintro ⟨before, i, after, split, hbefore, hi⟩
    have hknown : ∀ j ∈ before, standard.contains j.name = true := fun j hj =>
      hd.isKnown j (split ▸ List.mem_append_left _ hj)
    obtain ⟨texts, all⟩ := exists_allGive hknown hbefore ctx
    exact ((Outcome.failed split all (gives_error_iff.mpr hi)).expand_eq hd).1

/-- What a standard expansion calls does not depend on the context. -/
theorem calls_congr (hd : Decomposes standard.contains template.toList d)
    (ctx ctx' : QueryContext) : standard.calls template ctx = standard.calls template ctx' := by
  have houtcome := outcome_expand ctx hd
  have hknown := hd.isKnown
  generalize standard.expand template ctx = r, standard.calls template ctx = made at houtcome
  cases houtcome with
  | spliced all =>
    obtain ⟨texts, all'⟩ := exists_allGive hknown all.faultless ctx'
    exact ((Outcome.spliced all').expand_eq hd).2.symm
  | @failed before after i _ e split all fails =>
    rw [split, List.forall_mem_append] at hknown
    obtain ⟨texts, all'⟩ := exists_allGive hknown.1 all.faultless ctx'
    have fails' : standard.Gives ctx' i (.error e) := gives_error_iff.mpr (gives_error_iff.mp fails)
    exact ((Outcome.failed split all' fails').expand_eq hd).2.symm

end Template

/-- **The failures of standard expansions.** A template fails with its leftmost fault, in every
context alike, and its invocations are called alike: no context makes it fail where another does
not, or with another error. The error is about an argument list without an end, or counts the
arguments of a time filter; no standard expander reports another failure. -/
theorem expand_standard_error_iff (template : String) :
    ∃ d, Decomposes standard.contains template.toList d ∧
      (∀ d', Decomposes standard.contains template.toList d' → d' = d) ∧
      (∀ ctx e, standard.expand template ctx = .error e ↔ FirstFault d.invocations e) ∧
      (∀ ctx ctx' e,
        standard.expand template ctx = .error e ↔ standard.expand template ctx' = .error e) ∧
      (∀ ctx ctx', standard.calls template ctx = standard.calls template ctx') ∧
      ∀ ctx e, standard.expand template ctx = .error e →
        (∃ name, standard.contains name = true ∧ e = .unterminatedArguments name) ∨
          ∃ received, received ≠ 1 ∧ e = .badArgumentCount "timeFilter" 1 received := by
  obtain ⟨d, hd, _⟩ := exists_decomposes standard.contains template.toList
  refine ⟨d, hd, fun d' hd' => hd'.unique hd, ?_, ?_, calls_congr hd, ?_⟩
  · intro ctx e
    exact expand_eq_error_iff hd ctx
  · intro ctx ctx' e
    rw [expand_eq_error_iff hd ctx, expand_eq_error_iff hd ctx']
  · intro ctx e he
    obtain ⟨before, i, after, split, _, hfault⟩ := (expand_eq_error_iff hd ctx).mp he
    cases hfault with
    | unended => exact .inl ⟨i.name, hd.isKnown i (by simp [split]), rfl⟩
    | miscounted _ _ hcount => exact .inr ⟨_, hcount, rfl⟩

/-- The time filter with two columns is at fault, not the list without an end behind it. -/
example : standard.expand "$__toTime(x) $__timeFilter(a, b) $__timeFilter(" firstMinute =
    .error (.badArgumentCount "timeFilter" 1 2) := by decide +kernel

end FrameSource.Vocabulary
