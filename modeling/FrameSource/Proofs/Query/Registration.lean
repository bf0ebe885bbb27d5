import FrameSource.Proofs.Query.Outcome

/-!
# One more expander

Registering an expander makes one more name known. A template in which the marker does not stand in
front of that name falls apart as before: `AgreeOn` asks that two sets of known names agree on every
identifier that a text has behind a marker, and `Decomposes.transfer` takes a decomposition from one
to the other. The invocations then have names that were known before, whose expanders are the same.

**A template that does not name the new expander expands as before** (`expand_add`), errors and
calls included. A name that is no identifier cannot be invoked at all.
-/

namespace FrameSource.Template

/-- Two sets of known names agree on the identifiers that a text has behind a marker. -/
def AgreeOn (known known' : String → Bool) (cs : List Char) : Prop :=
  ∀ name, IsName name → marker ++ name <:+: cs →
    known' (String.ofList name) = known (String.ofList name)

variable {known known' : String → Bool} {cs : List Char}

theorem AgreeOn.symm (h : AgreeOn known known' cs) : AgreeOn known' known cs :=
  fun name hname hwithin => (h name hname hwithin).symm

theorem AgreeOn.mono {part : List Char} (h : AgreeOn known known' cs) (hpart : part <:+: cs) :
    AgreeOn known known' part :=
  fun name hname hwithin => h name hname (hwithin.trans hpart)

/-- The name of an invocation stands behind a marker, so agreement is enough to know whether it is
known. -/
theorem Named.transfer {name tail : List Char} (h : Named known cs name tail)
    (hagree : AgreeOn known known' cs) : Named known' cs name tail where
  split := h.split
  isName := h.isName
  longest := h.longest
  isKnown := by
    have hwithin : marker ++ name <:+: cs := ⟨[], tail, h.split.symm⟩
    rw [hagree name h.isName hwithin, h.isKnown]

/-- Silence is about all names at once: an invocation that the new name would start in silent text
is ruled out by agreement in the other direction. -/
theorem Silent.transfer {text rest : List Char} (h : Silent known text rest)
    (hagree : AgreeOn known known' (text ++ rest)) : Silent known' text rest := by
  rintro front back heq hback ⟨name, tail, start⟩
  have hpart : back ++ rest <:+: text ++ rest := ⟨front, [], by simp [heq]⟩
  exact h front back heq hback ⟨name, tail, start.transfer (hagree.mono hpart).symm⟩

theorem Spanned.transfer {i : Invocation} {rest : List Char} (h : Spanned known cs i rest)
    (hagree : AgreeOn known known' cs) : Spanned known' cs i rest := by
  obtain ⟨start, list⟩ := h
  exact .mk (start.transfer hagree) list

/-- **A text falls apart in one way** for sets of known names that agree on it. -/
theorem Decomposes.transfer {d : Decomposition} (h : Decomposes known cs d)
    (hagree : AgreeOn known known' cs) : Decomposes known' cs d := by
  induction h with
  | @last text silent =>
    refine .last (silent.transfer ?_)
    rwa [List.append_nil]
  | @stretch text cs rest i d silent spanned _ ih =>
    have hcs : cs <:+: text ++ cs := (List.suffix_append text cs).isInfix
    have hrest : rest <:+: cs := by
      rw [spanned.eq_append]
      exact (List.suffix_append i.span rest).isInfix
    exact .stretch (silent.transfer hagree) (spanned.transfer (hagree.mono hcs))
      (ih (hagree.mono (hrest.trans hcs)))

end FrameSource.Template

namespace FrameSource.Vocabulary

open Template

variable {v w : Vocabulary} {ctx : QueryContext}

/-- An invocation gives what its expander does, so the rest of the vocabulary does not matter. -/
theorem Gives.transfer {i : Invocation} {r : Except ExpansionError String} (h : v.Gives ctx i r)
    (hfind : w.find? i.name = v.find? i.name) : w.Gives ctx i r := by
  cases h with
  | unended hargs => exact .unended hargs
  | called hargs hfound => exact .called hargs (hfind.trans hfound)

/-- Vocabularies that have the same expanders for a decomposition have its outcome in common. -/
theorem Outcome.transfer {d : Decomposition} {r : Except ExpansionError String} {made : List Call}
    (h : Outcome v ctx d r made) (hfind : ∀ i ∈ d.invocations, w.find? i.name = v.find? i.name) :
    Outcome w ctx d r made := by
  cases h with
  | spliced all =>
    exact .spliced (forall₂_imp_mem all fun i hi _ hgives => hgives.transfer (hfind i hi))
  | failed split all fails =>
    rw [split, List.forall_mem_append, List.forall_mem_cons] at hfind
    obtain ⟨hbefore, hfails, _⟩ := hfind
    exact .failed split (forall₂_imp_mem all fun i hi _ hgives => hgives.transfer (hbefore i hi))
      (fails.transfer hfails)

/-- **A template that does not name a new expander expands as before**, and makes the same calls.
It names no expander whose name is not an identifier. -/
theorem expand_add {v : Vocabulary} {name template : String} (expander : Expander)
    (ctx : QueryContext) (hnew : v.contains name = false)
    (hunused : ¬ IsName name.toList ∨ ¬ marker ++ name.toList <:+: template.toList) :
    ∃ w : Vocabulary, v.add name expander = .ok w ∧ w.find? name = some expander ∧
      w.expand template ctx = v.expand template ctx ∧
      w.calls template ctx = v.calls template ctx := by
  obtain ⟨w, hw⟩ := Catalog.exists_add hnew expander
  have hfind : ∀ other, other ≠ name → w.find? other = v.find? other := fun other hne => by
    rw [Catalog.find?_of_add hw other, if_neg hne]
  have hagree : AgreeOn v.contains w.contains template.toList := by
    intro other hother hwithin
    have hne : String.ofList other ≠ name := by
      rintro rfl
      rw [String.toList_ofList] at hunused
      exact hunused.elim (· hother) (· hwithin)
    rw [Catalog.contains, hfind _ hne, Catalog.contains]
  obtain ⟨d, hd, _⟩ := exists_decomposes v.contains template.toList
  have houtcome : Outcome w ctx d (v.expand template ctx) (v.calls template ctx) := by
    refine (outcome_expand ctx hd).transfer fun i hi => hfind i.name ?_
    rintro rfl
    rw [hd.isKnown i hi] at hnew
    cases hnew
  exact ⟨w, hw, by rw [Catalog.find?_of_add hw name, if_pos rfl],
    houtcome.expand_eq (hd.transfer hagree)⟩

/-- An expander that fails whatever it is called with. -/
def refusing (name : String) : Expander := fun _ _ => .error (.failed name "refused")

/-- Names that begin like the new one, and the new one apart from a marker, stay what they are; a
name with a blank in it can stand behind a marker. -/
theorem expand_add_lookalikes :
    standard.contains "toTimes" = false ∧
    ¬ marker ++ "toTimes".toList <:+: "$__toTime $__to toTimes".toList ∧
    (∃ w : Vocabulary, standard.add "toTimes" (refusing "toTimes") = .ok w ∧
      w.find? "toTimes" = some (refusing "toTimes") ∧
      w.expand "$__toTime $__to toTimes" firstMinute =
        standard.expand "$__toTime $__to toTimes" firstMinute) ∧
    standard.contains "to Time" = false ∧
    ¬ IsName "to Time".toList ∧
    ∃ w : Vocabulary, standard.add "to Time" (refusing "to Time") = .ok w ∧
      w.find? "to Time" = some (refusing "to Time") ∧
      w.expand "$__to Time" firstMinute = standard.expand "$__to Time" firstMinute := by
  have hnew : standard.contains "toTimes" = false := by decide +kernel
  have hunused : ¬ marker ++ "toTimes".toList <:+: "$__toTime $__to toTimes".toList := by
    decide +kernel
  have hnew' : standard.contains "to Time" = false := by decide +kernel
  have hname : ¬ IsName "to Time".toList := fun h => absurd (h.2 ' ' (by decide)) (by decide)
  obtain ⟨w, hw, hfind, hexpand, _⟩ :=
    expand_add (refusing "toTimes") firstMinute hnew (.inr hunused)
  have hunused' : ¬ IsName "to Time".toList ∨
      ¬ marker ++ "to Time".toList <:+: "$__to Time".toList := .inl hname
  obtain ⟨w', hw', hfind', hexpand', _⟩ :=
    expand_add (refusing "to Time") firstMinute hnew' hunused'
  exact ⟨hnew, hunused, ⟨w, hw, hfind, hexpand⟩, hnew', hname, w', hw', hfind', hexpand'⟩

end FrameSource.Vocabulary
