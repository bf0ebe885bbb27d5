import FrameSource.Proofs.Datasource.Fields
import FrameSource.Proofs.Datasource.HostNumbers
import FrameSource.Proofs.Json.Held
import FrameSource.Proofs.Number.Whole

/-!
# Numbers and their texts

A field of numbers may hold an integer as a number or as a text. A number becomes a double, and a
text does not: the number loads as the text of the integer that its double is equal to. Up to
`2 ^ 53` that is the integer itself; beyond, it is the nearest one that is a double. The greatest
integers of 64 bits have the double `2 ^ 63`, which no field takes.

Two objects in which the field is spelled differently are different texts. If another member makes
them unreadable, both are refused, but the reader of JSON may say something different of each: that
is all that `Settings.LoadAlike` leaves open.

The proof changes one field of an object: no other field sees the change, and loading sees no more
of a field than the integer that is read from it.
-/

namespace FrameSource

/-! ## One member of an object -/

namespace Json

variable {before after named : List (String × Tree)} {name : String} {t : Tree}

/-- A field of other names does not see what a member of this name holds. -/
theorem field?_replace {t' : Tree} {names : List String} (h : name ∉ names) :
    field? (before ++ (name, t) :: after) names = field? (before ++ (name, t') :: after) names := by
  have hdrop : ∀ u : Tree, (before ++ (name, u) :: after).filter (fun m => names.contains m.1) =
      before.filter (fun m => names.contains m.1) ++
        after.filter (fun m => names.contains m.1) := by
    intro u
    rw [List.filter_append, List.filter_cons,
      if_neg fun hname => h (List.contains_iff_mem.mp hname)]
  unfold field?
  rw [hdrop t, hdrop t']

theorem field?_singleton (t' : Tree) {o : Option Tree}
    (h : field? (before ++ (name, t) :: after) [name] = some o) :
    o = some t ∧ field? (before ++ (name, t') :: after) [name] = some (some t') := by
  have hkeep : ∀ u : Tree, (before ++ (name, u) :: after).filter (fun m => [name].contains m.1) =
      before.filter (fun m => [name].contains m.1) ++
        (name, u) :: after.filter (fun m => [name].contains m.1) := by
    intro u
    rw [List.filter_append, List.filter_cons, if_pos (by simp)]
  unfold field? at h ⊢
  rw [hkeep] at h ⊢
  cases hbefore : before.filter (fun m => [name].contains m.1) with
  | nil =>
    cases hafter : after.filter (fun m => [name].contains m.1) with
    | nil =>
      rw [hbefore, hafter] at h
      cases h
      exact ⟨rfl, rfl⟩
    | cons m ms =>
      rw [hbefore, hafter] at h
      cases h
  | cons m ms =>
    rw [hbefore] at h
    cases ms <;> cases h

/-- Replacing the value of one member leaves the names and places of all members. -/
theorem namedMembers?_replace (t' : Tree) {before after : List (List StringUnit × Tree)}
    {key : List StringUnit} (hkey : text? key = some name)
    (h : namedMembers? (before ++ (key, t) :: after) = some named) :
    ∃ front back, named = front ++ (name, t) :: back ∧
      namedMembers? (before ++ (key, t') :: after) = some (front ++ (name, t') :: back) := by
  unfold namedMembers? at h ⊢
  rw [List.mapM_append] at h ⊢
  obtain ⟨front, hfront, h⟩ := Option.bind_eq_some_iff.mp h
  obtain ⟨rest, hrest, h⟩ := Option.bind_eq_some_iff.mp h
  rw [List.mapM_cons] at hrest
  obtain ⟨m, hm, hrest⟩ := Option.bind_eq_some_iff.mp hrest
  obtain ⟨back, hback, hrest⟩ := Option.bind_eq_some_iff.mp hrest
  rw [hkey] at hm
  cases hm
  cases hrest
  cases h
  refine ⟨front, back, rfl, ?_⟩
  rw [hfront, List.mapM_cons, hkey, hback]
  rfl

end Json

/-! ## One field of an instance -/

namespace Instance

/-- An instance with another value in a field of numbers. -/
def NumberField.set (i : Instance) (h : Option HostNumber) : NumberField → Instance
  | .port => { i with port := h }
  | .timeout => { i with timeout := h }
  | .queryTimeout => { i with queryTimeout := h }
  | .maxOpenConnections => { i with maxOpenConnections := h }
  | .maxIdleConnections => { i with maxIdleConnections := h }
  | .maxConnectionLifetime => { i with maxConnectionLifetime := h }

/-- Setting a number of an instance and reading it again; the next two say that nothing else
changes. -/
theorem get_set (i : Instance) (h : Option HostNumber) (f : NumberField) :
    f.get (f.set i h) = h := by
  cases f <;> rfl

theorem get_set_of_ne (i : Instance) (h : Option HostNumber) {f g : NumberField} (hg : g ≠ f) :
    g.get (f.set i h) = g.get i := by
  cases f <;> cases g <;> first | exact absurd rfl hg | rfl

theorem get_set_text (i : Instance) (h : Option HostNumber) (f : NumberField) (g : TextField) :
    g.get (f.set i h) = g.get i := by
  cases f <;> rfl

/-- If a number in a document is replaced by another that can be read, the instance that is read
changes in that field and in no other. -/
theorem StoredIn.replace {i : Instance} {f : NumberField} {front back : List (String × Json.Tree)}
    {t t' : Json.Tree} {h h' : HostNumber} (hi : i.StoredIn (front ++ (f.name, t) :: back))
    (ht : HostNumber.ofTree? t = some h) (ht' : HostNumber.ofTree? t' = some h') :
    f.get i = some h ∧
      (f.set i (some h')).StoredIn (front ++ (f.name, t') :: back) := by
  have hread : ∀ (u : Json.Tree) (k : HostNumber), HostNumber.ofTree? u = some k →
      Json.source.optional? HostNumber.ofTree? u = some (some k) := by
    intro u k hu
    have hnull : Json.source.isNull u = false := by
      cases u with
      | null => cases hu
      | _ => rfl
    rw [RecordSource.optional?, hnull, hu]
    rfl
  obtain ⟨o, ho, hown⟩ := Json.holdsNumber_iff.mp (hi.numbers f)
  obtain ⟨rfl, hfield⟩ := Json.field?_singleton t' ho
  rw [RecordSource.orDefault, hread t h ht] at hown
  refine ⟨(Option.some.inj hown).symm, fun g => ?_, fun g => ?_⟩
  · obtain ⟨o, ho, hother⟩ := Json.holdsText_iff.mp (hi.texts g)
    have hname : f.name ∉ g.names := by
      cases f <;> cases g <;> decide
    rw [get_set_text]
    exact Json.holdsText_iff.mpr ⟨o, (Json.field?_replace hname).symm.trans ho, hother⟩
  · by_cases hg : g = f
    · subst hg
      rw [get_set]
      exact Json.holdsNumber_iff.mpr ⟨some t', hfield, hread t' h' ht'⟩
    · obtain ⟨o, ho, hother⟩ := Json.holdsNumber_iff.mp (hi.numbers g)
      have hname : f.name ∉ [g.name] := by
        cases f <;> cases g <;> first | exact absurd rfl hg | decide
      rw [get_set_of_ne i _ hg]
      exact Json.holdsNumber_iff.mpr ⟨o, (Json.field?_replace hname).symm.trans ho, hother⟩

/-- Loading sees no more of a field of numbers than the integer that is read from it. -/
theorem load_set {i : Instance} {f : NumberField} {h h' : HostNumber}
    (hget : f.get i = some h) (heq : h.toInt f.name = h'.toInt f.name)
    (secret : String → Option String) : (f.set i (some h')).load secret = i.load secret := by
  refine load_alike ⟨fun g => by rw [get_set_text], fun g => ?_⟩ secret
  by_cases hg : g = f
  · subst hg
    rw [get_set, hget]
    exact heq.symm
  · rw [get_set_of_ne i _ hg]

end Instance

/-! ## The text of a number -/

/-- An integer as it is written in JSON. -/
def Json.Numeral.ofInt (n : ℤ) : Json.Numeral :=
  ⟨decide (n < 0), Text.decimal n.natAbs, [], none⟩

/-- An integer numeral of the machine's range is stored as the nearest double. -/
theorem Json.ofTree?_ofInt {n : ℤ} (hn : -2 ^ 63 ≤ n ∧ n < 2 ^ 63) :
    HostNumber.ofTree? (.number (.ofInt n)) = some (.number (Floating.ofInt .double n)) := by
  have hnumber : (Numeral.ofInt n).number? = some (.int n) :=
    Numeral.number?_decimal ⟨hn.1, by omega⟩
  simp only [HostNumber.ofTree?, hnumber]

/-- The texts that load as a number whose double is `d`: the decimal text of `d` between blanks, or
the shortest digits of `2 ^ 63`, which is not within 64 bits. -/
inductive SpelledAs (d : ℤ) (s : String) : Prop where
  | within {b₁ b₂ : List Char} (fits : d < 2 ^ 63) (before : Text.allBlank b₁ = true)
      (after : Text.allBlank b₂ = true) (written : s.toList = b₁ ++ Text.decimalInt d ++ b₂)
  | beyond (value : d = 2 ^ 63) (written : s = "9223372036854776000")

/-- The double just beyond the range is complained about with the shortest digits that denote it,
which are not those of the integer. -/
theorem HostNumber.toInt_two_pow_63 (field : String) :
    (number (.finite false (2 ^ 52) 11)).toInt field =
      .error (.invalidNumber field "9223372036854776000") := by
  have hread : (Floating.toInt? (.finite false (2 ^ 52) 11 : Double)).filter Text.inInt64 = none := by
    decide +kernel
  have hshown : Floating.spell .plain (.finite false (2 ^ 52) 11 : Double) =
      "9223372036854776000" := by
    decide +kernel
  simp only [toInt, hread, hshown]

theorem HostNumber.toInt_beyond (field : String) :
    (text "9223372036854776000").toInt field =
      .error (.invalidNumber field "9223372036854776000") := by
  have hblank : Text.isBlankText "9223372036854776000" = false := by decide +kernel
  have hread : Text.readInt64? (Text.trim "9223372036854776000".toList) = none := by decide +kernel
  simp only [toInt, hblank, hread, Bool.false_eq_true, if_false]

/-- A numeral and a text mean the same, if the text spells the integer that the nearest double of
the numeral is, which need not be the one that the numeral spells. -/
theorem HostNumber.toInt_number_eq_text {n d : ℤ} {s : String} (hn : -2 ^ 63 ≤ n ∧ n < 2 ^ 63)
    (hd : (Floating.ofInt .double n).value = d) (hs : SpelledAs d s) (field : String) :
    (number (Floating.ofInt .double n)).toInt field = (text s).toInt field := by
  have hlt : n.natAbs < 2 ^ 128 := by omega
  have hnear := Floating.isNearest_ofInt hlt
  cases hs with
  | within fits before after written =>
    have hmin := (Floating.value_ofInt_mem_int64 hn hd).1
    have hnumber : (number (Floating.ofInt .double n)).Denotes (some d) := by
      obtain ⟨sign, m, q, hx⟩ := hnear.inFormat.exists_finite
      rw [hx] at hd ⊢
      exact .number hd ⟨hmin, fits⟩
    have htext : (text s).Denotes (some d) :=
      .text written before after (Text.readInt?_decimalInt d) ⟨hmin, fits⟩
    rw [toInt_of_denotes hnumber, toInt_of_denotes htext]
  | beyond value written =>
    have hx : Floating.ofInt .double n = .finite false (2 ^ 52) 11 := by
      apply Floating.eq_of_value_eq_two_pow_63 hnear
      rw [hd, value]
      norm_num
    rw [hx, written, toInt_two_pow_63, toInt_beyond]

/-- **A number loads as the text of its double.** For every integer of 64 bits there is the integer
that its nearest double is equal to, and an object that holds the first as a number loads alike with
the object that holds a text of the second in the same field: with equal results, or refused both,
each in the words of the reader of JSON. -/
theorem Settings.ofInstance_number_eq_text (refusal : String → String) {n : ℤ}
    (hn : -2 ^ 63 ≤ n ∧ n < 2 ^ 63) :
    ∃ d : ℤ, (Floating.ofInt .double n).IsNearest n ∧ (Floating.ofInt .double n).value = d ∧
      (n.natAbs ≤ 2 ^ 53 → d = n) ∧ d ≤ 2 ^ 63 ∧
      ∀ (f : Instance.NumberField) (secret : String → Option String) (json json' s : String)
        (key units : List Json.StringUnit) (before after : List (List Json.StringUnit × Json.Tree)),
        SpelledAs d s → Json.text? key = some f.name → Json.text? units = some s →
        Json.Tree.parse? json = some (.object (before ++ (key, .number (.ofInt n)) :: after)) →
        Json.Tree.parse? json' = some (.object (before ++ (key, .string units) :: after)) →
        LoadAlike refusal secret json json' := by
  have hlt : n.natAbs < 2 ^ 128 := by omega
  have hnear := Floating.isNearest_ofInt hlt
  obtain ⟨d, hd⟩ := Floating.exists_int_value_ofInt hlt
  refine ⟨d, hnear, hd, ?_, (Floating.value_ofInt_mem_int64 hn hd).2, ?_⟩
  · intro hsmall
    have heq := Floating.value_ofInt hsmall
    rw [hd] at heq
    exact_mod_cast heq
  · intro f secret json json' s key units before after hs hkey hunits hjson hjson'
    have hnumber := Json.ofTree?_ofInt hn
    have htext : HostNumber.ofTree? (.string units) = some (.text s) :=
      Option.map_eq_some_iff.mpr ⟨s, hunits, rfl⟩
    have hsame := HostNumber.toInt_number_eq_text hn hd hs f.name
    -- what one of the objects stores, the other stores with the field in its other form
    have hreplace : ∀ (t t' : Json.Tree) (h h' : HostNumber), HostNumber.ofTree? t = some h →
        HostNumber.ofTree? t' = some h' → ∀ i : Instance,
        Instance.ofTree? (.object (before ++ (key, t) :: after)) = some i →
        f.get i = some h ∧
          Instance.ofTree? (.object (before ++ (key, t') :: after)) = some (f.set i (some h')) := by
      intro t t' h h' ht ht' i hi
      obtain ⟨named, hnamed, hstored⟩ := Instance.ofTree?_object_eq_some_iff.mp hi
      obtain ⟨front, back, rfl, hnamed'⟩ := Json.namedMembers?_replace t' hkey hnamed
      obtain ⟨hget, hset⟩ := hstored.replace ht ht'
      exact ⟨hget, Instance.ofTree?_object_eq_some_iff.mpr ⟨_, hnamed', hset⟩⟩
    refine loadAlike_of_objects hjson hjson' ?_ ?_
    · intro i hi
      obtain ⟨hget, hi'⟩ := hreplace _ _ _ _ hnumber htext i hi
      exact ⟨_, hi', (Instance.load_set hget hsame secret).symm⟩
    · intro i' hi'
      obtain ⟨_, hi⟩ := hreplace _ _ _ _ htext hnumber i' hi'
      exact ⟨_, hi⟩

theorem Json.parse?_limitedTo :
    Tree.parse? (limitedTo "9007199254740993") = some (.object
      (limitedMembers ++ (plainUnits "maxOpenConnections", .number (.ofInt 9007199254740993)) :: [])) :=
  rfl

/-- A limit that is no double loads as the text of its neighbour, blanks included. Beside a server that
is no text, a port and its text are both refused, at different columns. -/
theorem Settings.ofInstance_number_eq_text_neighbour :
    (-2 ^ 63 ≤ (9007199254740993 : ℤ) ∧ (9007199254740993 : ℤ) < 2 ^ 63) ∧
    SpelledAs 9007199254740992 " 9007199254740992\u00a0" ∧
    ofInstance serverRefusal (limitedTo "9007199254740993") passwordAlone =
      ofInstance serverRefusal (limitedTo "\" 9007199254740992\\u00a0\"") passwordAlone ∧
    SpelledAs 1 "1" ∧
    ofInstance serverRefusal (misserved "\"port\":1,") passwordAlone =
      .error (.invalidJson "invalid type: integer `5`, expected a string at line 1 column 20") ∧
    ofInstance serverRefusal (misserved "\"port\":\"1\",") passwordAlone =
      .error (.invalidJson "invalid type: integer `5`, expected a string at line 1 column 22") := by
  have hn : -2 ^ 63 ≤ (9007199254740993 : ℤ) ∧ (9007199254740993 : ℤ) < 2 ^ 63 := by decide
  have hwritten : " 9007199254740992\u00a0".toList =
      [' '] ++ Text.decimalInt 9007199254740992 ++ ['\u00a0'] := by
    decide +kernel
  have hspelled : SpelledAs 9007199254740992 " 9007199254740992\u00a0" :=
    .within (by decide) (by decide) (by decide) hwritten
  have hspelled' : SpelledAs 1 "1" :=
    .within (by decide) (show Text.allBlank [] = true by decide)
      (show Text.allBlank [] = true by decide) (by decide)
  refine ⟨hn, hspelled, ?_, hspelled', ?_⟩
  · obtain ⟨d, hnear, hd, _, _, hsame⟩ := ofInstance_number_eq_text serverRefusal hn
    have hread : (Floating.ofInt .double 9007199254740993).toInt? = some 9007199254740992 := by
      decide +kernel
    have hvalue := (Floating.toInt?_eq_some_iff hnear.inFormat).mp hread
    obtain rfl : d = 9007199254740992 := by exact_mod_cast hd.symm.trans hvalue
    obtain ⟨i, hi⟩ : ∃ i, Instance.ofText? (limitedTo "9007199254740993") = some i := by
      rw [ofText?_of_parse Json.parse?_limitedTo]
      exact ⟨_, rfl⟩
    refine (hsame .maxOpenConnections passwordAlone _ _ _ (Json.plainUnits "maxOpenConnections")
      (Json.plainUnits " 9007199254740992" ++ [.code 0xa0]) limitedMembers [] hspelled rfl rfl
      Json.parse?_limitedTo rfl).eq_of_holds hi
  · obtain ⟨d, _, _, hsmall, _, hsame⟩ :=
      ofInstance_number_eq_text serverRefusal (n := 1) (by decide)
    obtain rfl : d = 1 := hsmall (by decide)
    have hrefused : Instance.ofText? (misserved "\"port\":1,") = none := by decide +kernel
    have halike := hsame .port passwordAlone (misserved "\"port\":1,")
      (misserved "\"port\":\"1\",") "1" (Json.plainUnits "port") (Json.plainUnits "1") []
      [(Json.plainUnits "server", .number ⟨false, ['5'], [], none⟩)] hspelled' rfl rfl rfl rfl
    cases halike with
    | read holds _ _ =>
      rw [hrefused] at holds
      cases holds
    | refused _ _ fails fails' => exact ⟨fails, fails'⟩

/-- The same limit does not load as its own text. -/
theorem Settings.ofInstance_number_ne_text :
    ∃ key units,
      Json.text? key = some Instance.NumberField.maxOpenConnections.name ∧
      Json.text? units = some (Text.intText 9007199254740993) ∧
      Json.Tree.parse? (limitedTo "9007199254740993") =
        some (.object (limitedMembers ++ (key, .number (.ofInt 9007199254740993)) :: [])) ∧
      Json.Tree.parse? (limitedTo "\"9007199254740993\"") =
        some (.object (limitedMembers ++ (key, .string units) :: [])) ∧
      ofInstance serverRefusal (limitedTo "9007199254740993") passwordAlone ≠
        ofInstance serverRefusal (limitedTo "\"9007199254740993\"") passwordAlone := by
  have hparse' : Json.Tree.parse? (limitedTo "\"9007199254740993\"") = some (.object
      (limitedMembers ++ (Json.plainUnits "maxOpenConnections",
        .string (Json.plainUnits "9007199254740993")) :: [])) := rfl
  refine ⟨_, _, rfl, rfl, Json.parse?_limitedTo, hparse', ?_⟩
  have hread : Instance.ofTree? (.object (limitedMembers ++
      (Json.plainUnits "maxOpenConnections", .number (.ofInt 9007199254740993)) :: [])) =
        some (limited (.number (.finite false 4503599627370496 1))) := by
    decide +kernel
  have hread' : Instance.ofTree? (.object (limitedMembers ++
      (Json.plainUnits "maxOpenConnections", .string (Json.plainUnits "9007199254740993")) :: [])) =
        some (limited (.text "9007199254740993")) := by
    decide +kernel
  rw [ofInstance_of_some Json.parse?_limitedTo hread, ofInstance_of_some hparse' hread']
  intro heq
  have hlimits := congrArg (fun r => r.toOption.map fun s => s.maxOpenConnections) heq
  exact absurd hlimits (by decide +kernel)

end FrameSource
