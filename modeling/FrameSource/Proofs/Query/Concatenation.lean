import FrameSource.Proofs.Query.Outcome

/-!
# Templates one after the other

Two templates are put together where nothing of the first goes on in the second: the second is
`Detached`, it starts neither with a character of a name nor with an opening parenthesis. The
invocations of the first are then those of the whole, as far as they end (`Spanned.append_right`),
and where nothing started before, nothing starts now (`Silent.append_right`). A marker cannot
straddle the seam either, since its last two characters could go on with a name.

**Expanding two templates is expanding one after the other** (`expand_append`). An argument list
without an end is the exception: the second template may end it, so its error is not kept.
-/

namespace FrameSource.Template

/-- A text that neither goes on with a name nor opens an argument list. -/
def Detached (text : List Char) : Prop :=
  ∀ c ∈ text.head?, c ≠ '(' ∧ isNameChar c = false

/-! ## What stands at the seam -/

section Seam

variable {known : String → Bool} {cs more : List Char}

/-- What follows an invocation does not reach into its name, if it cannot go on with one. -/
theorem Named.append_right {name tail : List Char} (h : Named known cs name tail)
    (hmore : Detached more) : Named known (cs ++ more) name (tail ++ more) where
  split := by rw [h.split, List.append_assoc _ tail more]
  isName := h.isName
  longest := by
    cases tail with
    | nil => exact fun c hc => (hmore c hc).2
    | cons c tail => exact h.longest
  isKnown := h.isKnown

/-- An invocation that starts before the seam has its name before the seam. -/
theorem Named.of_append {name tail : List Char} (h : Named known (cs ++ more) name tail)
    (hmore : Detached more) (hcs : cs ≠ []) : ∃ tail', Named known cs name tail' := by
  rcases h.cut hcs with ⟨tail', hsplit, htail⟩ | ⟨c, hc, hcases⟩
  · refine ⟨tail', hsplit, h.isName, ?_, h.isKnown⟩
    cases tail' with
    | nil => exact nofun
    | cons c tail' =>
      rw [htail] at h
      exact h.longest
  · have hchar : isNameChar c = true := by
      rcases hcases with rfl | hname
      · decide
      · exact isNameChar_of_isName h.isName c hname
    rw [(hmore c hc).2] at hchar
    cases hchar

/-- Silent text stays silent in front of detached text. This is where the condition is needed:
otherwise a name could be completed across the seam. -/
theorem Silent.append_right {text : List Char} (h : Silent known text cs)
    (hmore : Detached more) : Silent known text (cs ++ more) := by
  rintro front back heq hback ⟨name, tail, start⟩
  rw [← List.append_assoc] at start
  have hne : back ++ cs ≠ [] := fun hnil => hback (List.append_eq_nil_iff.mp hnil).1
  obtain ⟨tail', start'⟩ := start.of_append hmore hne
  exact h front back heq hback ⟨name, tail', start'⟩

/-- A list that has an end keeps it. One without an end would go on into the text that follows. -/
theorem Takes.append_right {tail taken rest : List Char} {args : List String}
    (h : Takes tail taken (some args) rest) (hmore : Detached more) :
    Takes (tail ++ more) taken (some args) (rest ++ more) := by
  cases h with
  | bare h =>
    refine .bare ?_
    cases tail with
    | nil => exact fun hhead => (hmore '(' hhead).1 rfl
    | cons c tail => exact h
  | @closed inner rest h =>
    rw [List.cons_append, List.append_assoc, List.cons_append]
    exact .closed h

/-- An invocation that ends is an invocation of the whole. -/
theorem Spanned.append_right {i : Invocation} {rest : List Char} (h : Spanned known cs i rest)
    (hi : i.args ≠ none) (hmore : Detached more) : Spanned known (cs ++ more) i (rest ++ more) := by
  obtain @⟨name, tail, taken, rest, args, start, list⟩ := h
  cases args with
  | none => exact absurd rfl hi
  | some args => exact .mk (start.append_right hmore) (list.append_right hmore)

end Seam

/-! ## Decompositions one after the other -/

namespace Decomposition

/-- A decomposition and another one after it. -/
def append (d d' : Decomposition) : Decomposition :=
  ⟨d.stretches ++ (d'.prepend d.last).stretches, (d'.prepend d.last).last⟩

theorem invocations_prepend (text : List Char) (d : Decomposition) :
    (d.prepend text).invocations = d.invocations := by
  obtain ⟨_ | ⟨s, stretches⟩, last⟩ := d <;> rfl

theorem invocations_append (d d' : Decomposition) :
    (d.append d').invocations = d.invocations ++ d'.invocations := by
  rw [← invocations_prepend d.last d']
  exact List.map_append

/-- Literal text in front of a template is kept in front of what the template expands to. -/
theorem splice_prepend (text : List Char) {d : Decomposition} {texts : List String}
    (h : texts.length = d.stretches.length) :
    (d.prepend text).splice texts = text ++ d.splice texts := by
  obtain ⟨_ | ⟨s, stretches⟩, last⟩ := d
  · simp [prepend, splice]
  · cases texts with
    | nil => cases h
    | cons t texts => simp [prepend, splice_cons]

/-- Two decompositions in a row are spliced one after the other, each with as many texts as it has
invocations. -/
theorem splice_append {d d' : Decomposition} {texts texts' : List String}
    (h : texts.length = d.stretches.length) (h' : texts'.length = d'.stretches.length) :
    (d.append d').splice (texts ++ texts') = d.splice texts ++ d'.splice texts' := by
  obtain ⟨stretches, last⟩ := d
  induction stretches generalizing texts with
  | nil =>
    obtain rfl := List.length_eq_zero_iff.mp h
    exact splice_prepend last h'
  | cons s stretches ih =>
    cases texts with
    | nil => cases h
    | cons t texts =>
      have hrest := ih (Nat.succ.inj h)
      rw [splice_cons, List.append_assoc _ _ (splice d' texts'), ← hrest]
      rfl

end Decomposition

variable {known : String → Bool} {cs more : List Char} {d d' : Decomposition}

/-- Where every invocation of the first text ends, the decompositions are put together. -/
theorem Decomposes.append (h : Decomposes known cs d) (h' : Decomposes known more d')
    (hends : ∀ i ∈ d.invocations, i.args ≠ none) (hmore : Detached more) :
    Decomposes known (cs ++ more) (d.append d') := by
  induction h with
  | last silent => exact h'.prepend (silent.append_right hmore)
  | @stretch text cs rest i d silent spanned _ ih =>
    obtain ⟨hi, hrest⟩ := List.forall_mem_cons.mp hends
    rw [List.append_assoc]
    exact .stretch (silent.append_right hmore) (spanned.append_right hi hmore) (ih hrest)

/-- The whole has the invocations of the first text, up to one that does not end. -/
theorem Decomposes.exists_append (h : Decomposes known cs d) (hmore : Detached more) :
    ∃ whole, Decomposes known (cs ++ more) whole ∧
      ∀ before after, d.invocations = before ++ after → (∀ i ∈ before, i.args ≠ none) →
        ∃ after', whole.invocations = before ++ after' := by
  induction h with
  | @last text silent =>
    obtain ⟨whole, hwhole, _⟩ := exists_decomposes known (text ++ more)
    refine ⟨whole, hwhole, fun before after hsplit _ => ?_⟩
    obtain ⟨rfl, _⟩ := List.append_eq_nil_iff.mp hsplit.symm
    exact ⟨_, rfl⟩
  | @stretch text cs rest i d silent spanned _ ih =>
    -- An invocation without an end takes the second text in, and nothing is claimed from there on.
    by_cases hi : i.args = none
    · obtain ⟨whole, hwhole, _⟩ := exists_decomposes known (text ++ cs ++ more)
      refine ⟨whole, hwhole, fun before after hsplit hends => ?_⟩
      cases before with
      | nil => exact ⟨_, rfl⟩
      | cons j before =>
        obtain ⟨rfl, _⟩ := List.cons.inj hsplit
        exact absurd hi (hends i List.mem_cons_self)
    · obtain ⟨whole, hwhole, hkeeps⟩ := ih
      refine ⟨⟨(text, i) :: whole.stretches, whole.last⟩, ?_, fun before after hsplit hends => ?_⟩
      · rw [List.append_assoc]
        exact .stretch (silent.append_right hmore) (spanned.append_right hi hmore) hwhole
      · cases before with
        | nil => exact ⟨_, rfl⟩
        | cons j before =>
          obtain ⟨rfl, htail⟩ := List.cons.inj hsplit
          obtain ⟨after', hafter⟩ := hkeeps before after htail (List.forall_mem_cons.mp hends).2
          exact ⟨after', congrArg (i :: ·) hafter⟩

end FrameSource.Template

namespace FrameSource.Vocabulary

open Template

variable {v : Vocabulary} {ctx : QueryContext} {d d' : Decomposition}

theorem AllGive.length_texts {texts : List String} (h : AllGive v ctx d.invocations texts) :
    texts.length = d.stretches.length := by
  rw [← List.Forall₂.length_eq h, Decomposition.invocations, List.length_map]

/-- Behind a template all of whose invocations give their texts goes the outcome of another one. -/
theorem Outcome.append {texts : List String} {r : Except ExpansionError String} {made : List Call}
    (all : AllGive v ctx d.invocations texts) (h : Outcome v ctx d' r made) :
    Outcome v ctx (d.append d') (r.map (String.ofList (d.splice texts) ++ ·))
      (d.invocations.filterMap callOf? ++ made) := by
  cases h with
  | @spliced texts' all' =>
    have hall : AllGive v ctx (d.append d').invocations (texts ++ texts') := by
      rw [Decomposition.invocations_append]
      exact List.rel_append all all'
    have h := Outcome.spliced hall
    rw [Decomposition.splice_append all.length_texts all'.length_texts, String.ofList_append,
      Decomposition.invocations_append, List.filterMap_append] at h
    exact h
  | @failed before after i texts' e split all' fails =>
    have hsplit : (d.append d').invocations = (d.invocations ++ before) ++ i :: after := by
      rw [Decomposition.invocations_append, split, List.append_assoc]
    have h := Outcome.failed hsplit (List.rel_append all all') fails
    rw [List.append_assoc, List.filterMap_append] at h
    exact h

/-- **Expanding two templates is expanding one after the other.** The second must be detached. If
the first expands, the whole does what the second does, behind the text of the first, and makes the
calls of both. If an expander fails in the first, so does the whole, with the same calls. -/
theorem expand_append {v : Vocabulary} {ctx : QueryContext} {first second : String}
    (hsecond : Detached second.toList) :
    (∀ text, v.expand first ctx = .ok text →
      v.expand (first ++ second) ctx = (v.expand second ctx).map (text ++ ·) ∧
      v.calls (first ++ second) ctx = v.calls first ctx ++ v.calls second ctx) ∧
    (∀ e, v.expand first ctx = .error e →
      (∃ call ∈ v.calls first ctx, v.answer ctx call.name call.args = .error e) →
      v.expand (first ++ second) ctx = .error e ∧
      v.calls (first ++ second) ctx = v.calls first ctx) := by
  obtain ⟨d, hd, _⟩ := exists_decomposes v.contains first.toList
  have hfirst := outcome_expand ctx hd
  constructor
  · intro text htext
    rw [htext] at hfirst
    obtain ⟨texts, all, rfl, hcalls⟩ := hfirst.exists_texts
    obtain ⟨d', hd', _⟩ := exists_decomposes v.contains second.toList
    have hwhole : Decomposes v.contains (first ++ second).toList (d.append d') := by
      rw [String.toList_append]
      exact hd.append hd' all.ended hsecond
    rw [hcalls]
    exact ((outcome_expand ctx hd').append all).expand_eq hwhole
  · intro e he ⟨call, hmade, hanswer⟩
    rw [he] at hfirst
    obtain ⟨before, i, after, texts, split, all, fails, hcalls⟩ := hfirst.exists_first_error
    -- the call that failed is not one of those before the invocation that fails
    have hends : ∀ j ∈ before ++ [i], j.args ≠ none := by
      rw [hcalls] at hmade
      obtain ⟨j, hj, hcall⟩ := List.mem_filterMap.mp hmade
      rcases List.mem_append.mp hj with hj | hj
      · obtain ⟨text, _, hgives⟩ := forall₂_exists_right all hj
        rw [hgives.answer_eq hcall] at hanswer
        cases hanswer
      · obtain rfl := List.mem_singleton.mp hj
        have hj' : j.args ≠ none := fun hnone => by simp [callOf?, hnone] at hcall
        exact List.forall_mem_append.mpr ⟨all.ended, List.forall_mem_singleton.mpr hj'⟩
    obtain ⟨whole, hwhole, hkeeps⟩ := hd.exists_append hsecond
    obtain ⟨after', hafter⟩ := hkeeps (before ++ [i]) after (by simp [split]) hends
    have houtcome : Outcome v ctx whole (.error e) (v.calls first ctx) := by
      rw [hcalls]
      exact .failed (by simpa using hafter) all fails
    rw [← String.toList_append] at hwhole
    exact houtcome.expand_eq hwhole

/-- Invocations may meet at the seam, and a call that failed fails in front of anything. -/
theorem expand_append_adjacent :
    Detached "$__sampleByInterval)".toList ∧
    standard.expand "$$__toTime" firstMinute = .ok "$cast(60000000 as timestamp)" ∧
    standard.expand "$$__toTime$__sampleByInterval)" firstMinute =
      .ok "$cast(60000000 as timestamp)1s)" ∧
    standard.expand "$__timeFilter$__toTime(" firstMinute =
      .error (.badArgumentCount "timeFilter" 1 0) ∧
    (∃ call ∈ standard.calls "$__timeFilter$__toTime(" firstMinute,
      standard.answer firstMinute call.name call.args =
        .error (.badArgumentCount "timeFilter" 1 0)) ∧
    standard.expand "$__timeFilter$__toTime($__sampleByInterval)" firstMinute =
      .error (.badArgumentCount "timeFilter" 1 0) := by
  have hsecond : Detached "$__sampleByInterval)".toList := by
    intro c hc
    cases hc
    decide
  have htext : standard.expand "$$__toTime" firstMinute =
      .ok "$cast(60000000 as timestamp)" := by decide +kernel
  have hrest : standard.expand "$__sampleByInterval)" firstMinute = .ok "1s)" := by decide +kernel
  have hfails : standard.expand "$__timeFilter$__toTime(" firstMinute =
      .error (.badArgumentCount "timeFilter" 1 0) := by decide +kernel
  have hcalls : standard.calls "$__timeFilter$__toTime(" firstMinute = [⟨"timeFilter", []⟩] := by
    decide +kernel
  have hcall : ∃ call ∈ standard.calls "$__timeFilter$__toTime(" firstMinute,
      standard.answer firstMinute call.name call.args =
        .error (.badArgumentCount "timeFilter" 1 0) := by
    rw [hcalls]
    exact ⟨⟨"timeFilter", []⟩, List.mem_singleton_self _, by decide +kernel⟩
  refine ⟨hsecond, htext, ?_, hfails, hcall, ?_⟩
  · have happend := ((expand_append hsecond).1 _ htext).1
    rw [hrest] at happend
    exact happend
  · exact ((expand_append hsecond).2 _ hfails hcall).1

end FrameSource.Vocabulary
