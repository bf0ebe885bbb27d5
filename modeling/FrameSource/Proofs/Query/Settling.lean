import FrameSource.Proofs.Query.Outcome
import FrameSource.Proofs.Time.Buckets

/-!
# Expansions that expand no further

What an expander returns is not looked at again, but it may look like a template: it may hold a
marker, or begin with the end of a marker or of a name that stands in front of the invocation. An
`Inert` text does neither, whatever stands around it. Where every text that is put into a template
is inert, no invocation starts in the expansion (`silent_splice`).

The texts of the standard expanders are timestamp literals and bucket sizes. They begin with a `c`
or a digit, and no standard name has such a character, so they are inert. The predicate of
`timeFilter` begins with its argument and is not.

**A standard expansion without `timeFilter` expands to itself**, and calls no expander
(`expand_standard_settled`).
-/

namespace FrameSource.Template

variable {known : String → Bool}

/-- A text that neither holds a marker nor completes one, nor a known name: there is no `$` in it,
and it begins with a character other than `_` that no known name has. -/
structure Inert (known : String → Bool) (text : List Char) : Prop where
  noDollar : '$' ∉ text
  foreign : ∃ c ∈ text.head?, c ≠ '_' ∧ ∀ name, known name = true → c ∉ name.toList

/-- Nothing starts inside a text without the marker's first character. -/
theorem silent_of_noDollar {text : List Char} (h : '$' ∉ text) (rest : List Char) :
    Silent known text rest := by
  intro front back heq hback hs
  obtain ⟨c, back, rfl⟩ := List.exists_cons_of_ne_nil hback
  obtain rfl := hs.head
  exact h (by simp [heq])

/-- Silent text in front of an invocation is silent in front of an inert text as well. -/
theorem Silent.before_inert {text cs inert : List Char} (h : Silent known text cs)
    (hcs : Starts known cs) (hinert : Inert known inert) (rest : List Char) :
    Silent known text (inert ++ rest) := by
  rintro front back heq hback ⟨name, tail, start⟩
  rcases start.cut hback with ⟨tail', hsplit, htail⟩ | ⟨c, hc, hcases⟩
  · -- the name ends inside the silent text, where an invocation would have started before
    refine h front back heq hback ⟨name, tail' ++ cs, ?_, start.isName, ?_, start.isKnown⟩
    · rw [hsplit, List.append_assoc]
    · cases tail' with
      | nil =>
        obtain _ | ⟨d, cs⟩ := cs
        · exact nofun
        · obtain rfl := hcs.head
          rintro _ ⟨⟩
          exact dollar_not_isNameChar
      | cons d tail' =>
        rw [htail] at start
        exact start.longest
  · obtain ⟨first, hfirst, hne, hforeign⟩ := hinert.foreign
    obtain rfl : first = c := by
      obtain ⟨more, rfl⟩ := List.head?_eq_some_iff.mp hfirst
      simpa using hc
    rcases hcases with rfl | hname
    · exact hne rfl
    · exact hforeign _ start.isKnown (by rwa [String.toList_ofList])

/-- **Inert texts settle a template**: with them in place of the spans, nothing starts in it. -/
theorem silent_splice {cs : List Char} {d : Decomposition} {texts : List String}
    (h : Decomposes known cs d)
    (hinert : List.Forall₂ (fun _ text => Inert known text.toList) d.invocations texts) :
    Silent known (d.splice texts) [] := by
  induction h generalizing texts with
  | last silent =>
    cases hinert
    exact silent
  | @stretch text cs rest i d silent spanned _ ih =>
    cases hinert with
    | @cons _ inert _ texts hhead htail =>
      rw [Decomposition.splice_cons]
      have hsilent := silent.before_inert spanned.starts hhead (d.splice texts ++ [])
      exact (hsilent.append (silent_of_noDollar hhead.noDollar _)).append (ih htail)

end FrameSource.Template

namespace FrameSource

/-! ## The texts of the standard expanders -/

theorem Text.dollar_notMem_decimal (n : Nat) : '$' ∉ Text.decimal n := fun h =>
  absurd (List.all_eq_true.mp (all_isDigit_decimal n) '$' h) (by decide)

theorem Text.dollar_notMem_decimalInt (n : Int) : '$' ∉ Text.decimalInt n := by
  cases n with
  | ofNat n => exact dollar_notMem_decimal n
  | negSucc n =>
    rw [decimalInt, List.mem_cons, not_or]
    exact ⟨by decide, dollar_notMem_decimal (n + 1)⟩

namespace Vocabulary

open Template

variable {v : Vocabulary} {ctx : QueryContext}

/-- What a standard vocabulary finds is one of the standard expanders under its own name. -/
theorem mem_standard_of_find? {name : String} {expander : Expander}
    (h : standard.find? name = some expander) : (name, expander) ∈ Expander.standard :=
  (Catalog.ofList_perm Expander.standard).mem_iff.mp (Catalog.mem_of_find? h)

/-- The standard expanders, one by one. -/
theorem find?_standard_cases {name : String} {expander : Expander}
    (h : standard.find? name = some expander) :
    (name = "fromTime" ∧ expander = Expander.fromTime) ∨
      (name = "sampleByInterval" ∧ expander = Expander.sampleByInterval) ∨
      (name = "timeFilter" ∧ expander = Expander.timeFilter) ∨
      (name = "toTime" ∧ expander = Expander.toTime) := by
  have hmem := mem_standard_of_find? h
  simpa only [Expander.standard, List.mem_cons, Prod.mk.injEq, List.not_mem_nil, or_false] using hmem

/-- No standard name has a `c` or a digit. -/
theorem notMem_of_standard_contains {name : String} (h : standard.contains name = true) {c : Char}
    (hc : c = 'c' ∨ Text.isDigit c = true) : c ∉ name.toList := by
  obtain ⟨expander, hfind⟩ := Option.isSome_iff_exists.mp h
  have hall : (Expander.standard.all fun e =>
      e.1.toList.all fun d => d != 'c' && !Text.isDigit d) = true := by decide
  intro hmem
  have hname := List.all_eq_true.mp hall (name, expander) (mem_standard_of_find? hfind)
  have hchar := List.all_eq_true.mp hname c hmem
  rw [Bool.and_eq_true, bne_iff_ne, Bool.not_eq_true'] at hchar
  rcases hc with rfl | hc
  · exact hchar.1 rfl
  · rw [hc] at hchar
    cases hchar.2

/-- A time literal starts no invocation, and goes on with none in front of it: no known name has its
first character. -/
theorem inert_timestampLiteral (micros : Int) :
    Inert standard.contains (Expander.timestampLiteral micros).toList := by
  have htext : (Expander.timestampLiteral micros).toList =
      "cast(".toList ++ Text.decimalInt micros ++ " as timestamp)".toList := by
    simp only [Expander.timestampLiteral, Text.intText, String.toList_append, String.toList_ofList]
  constructor
  · rw [htext, List.mem_append, List.mem_append, not_or, not_or]
    exact ⟨⟨by decide, Text.dollar_notMem_decimalInt micros⟩, by decide⟩
  · rw [htext]
    exact ⟨'c', rfl, by decide, fun name h => notMem_of_standard_contains h (.inl rfl)⟩

/-- A bucket size is inert as well: it is made of digits and the letters of a unit, and no known
name has a digit. -/
theorem inert_sampleBy (d : Interval) : Inert standard.contains d.sampleBy.toList := by
  obtain ⟨n, unit, _, hunit, hbucket, _⟩ := d.exists_bucket_eq
  obtain ⟨c, digits, hdigits⟩ := List.exists_cons_of_ne_nil (Text.decimal_ne_nil n)
  have hdigit : Text.isDigit c = true := Text.isDigit_head_decimal hdigits
  rw [Interval.sampleBy, String.toList_ofList, hbucket]
  constructor
  · have hall : ∀ u ∈ Interval.units, '$' ∉ u.1 := by decide
    rw [List.mem_append, not_or]
    exact ⟨Text.dollar_notMem_decimal n, hall _ hunit⟩
  · refine ⟨c, by rw [hdigits]; rfl, ?_, fun name h => notMem_of_standard_contains h (.inr hdigit)⟩
    rintro rfl
    exact absurd hdigit (by decide)

/-- What a standard expander other than `timeFilter` returns is inert. -/
theorem Gives.inert {i : Invocation} {text : String} (h : standard.Gives ctx i (.ok text))
    (hname : i.name ≠ "timeFilter") : Inert standard.contains text.toList := by
  generalize hr : Except.ok text = r at h
  cases h with
  | unended => cases hr
  | @called args expander hargs hfind =>
    rcases find?_standard_cases hfind with ⟨_, rfl⟩ | ⟨_, rfl⟩ | ⟨hfilter, _⟩ | ⟨_, rfl⟩
    · cases hr
      exact inert_timestampLiteral _
    · cases hr
      exact inert_sampleBy _
    · exact absurd hfilter hname
    · cases hr
      exact inert_timestampLiteral _

/-! ## Expanding again -/

/-- Text in which nothing starts expands to itself. -/
theorem expand_of_silent {text : String} (h : Silent v.contains text.toList [])
    (ctx : QueryContext) : v.expand text ctx = .ok text ∧ v.calls text ctx = [] := by
  have houtcome : Outcome v ctx ⟨[], text.toList⟩ (.ok (String.ofList text.toList)) [] :=
    .spliced .nil
  rw [String.ofList_toList] at houtcome
  exact houtcome.expand_eq (.last h)

/-- **A standard expansion expands no further**, if `timeFilter` was not called for it: in any
context it expands to itself, and no expander is called. -/
theorem expand_standard_settled {ctx : QueryContext} {template text : String}
    (h : standard.expand template ctx = .ok text)
    (hcalls : ∀ call ∈ standard.calls template ctx, call.name ≠ "timeFilter")
    (ctx' : QueryContext) :
    standard.expand text ctx' = .ok text ∧ standard.calls text ctx' = [] := by
  obtain ⟨d, hd, _⟩ := exists_decomposes standard.contains template.toList
  have houtcome := outcome_expand ctx hd
  rw [h] at houtcome
  obtain ⟨texts, all, rfl, hmade⟩ := houtcome.exists_texts
  have hinert : List.Forall₂ (fun _ text => Inert standard.contains text.toList)
      d.invocations texts := by
    refine forall₂_imp_mem all fun i hi text hgives => hgives.inert ?_
    obtain ⟨args, hargs⟩ := Option.ne_none_iff_exists'.mp hgives.ended
    have hcall : ⟨i.name, args⟩ ∈ standard.calls template ctx := by
      rw [hmade]
      exact List.mem_filterMap.mpr ⟨i, hi, by rw [callOf?, hargs]; rfl⟩
    exact hcalls _ hcall
  apply expand_of_silent
  rw [String.toList_ofList]
  exact silent_splice hd hinert

/-- Markers and the beginnings of names in front of invocations stay what they are. -/
theorem expand_standard_settled_seams :
    standard.expand "$__$__sampleByInterval(,)$__to$__toTime" firstMinute =
      .ok "$__1s$__tocast(60000000 as timestamp)" ∧
    (∀ call ∈ standard.calls "$__$__sampleByInterval(,)$__to$__toTime" firstMinute,
      call.name ≠ "timeFilter") ∧
    standard.expand "$__1s$__tocast(60000000 as timestamp)" firstMinute =
      .ok "$__1s$__tocast(60000000 as timestamp)" := by
  have hexpand : standard.expand "$__$__sampleByInterval(,)$__to$__toTime" firstMinute =
      .ok "$__1s$__tocast(60000000 as timestamp)" := by decide +kernel
  have hcalls : standard.calls "$__$__sampleByInterval(,)$__to$__toTime" firstMinute =
      [⟨"sampleByInterval", ["", ""]⟩, ⟨"toTime", []⟩] := by decide +kernel
  have hnames : ∀ call ∈ standard.calls "$__$__sampleByInterval(,)$__to$__toTime" firstMinute,
      call.name ≠ "timeFilter" := by
    rw [hcalls]
    decide
  exact ⟨hexpand, hnames, (expand_standard_settled hexpand hnames firstMinute).1⟩

/-- The predicate of `timeFilter` begins with its argument, which may be an invocation. -/
example : standard.expand "$__timeFilter($__toTime)" firstMinute =
    .ok "$__toTime >= cast(0 as timestamp) AND $__toTime <= cast(60000000 as timestamp)" := by
  decide +kernel

end Vocabulary

end FrameSource
