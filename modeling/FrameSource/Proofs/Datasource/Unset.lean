import FrameSource.Proofs.Datasource.Checks

/-!
# Fields left unset

A field of an instance is left unset in one of three ways: its member is absent, or it is `null`, or
it is a text that stands for nothing, which is a blank one for a number and the empty one for a word.
**Loading does not tell them apart** (`Settings.ofInstance_unset`): objects with the same other members
load alike, complaints included, and what is loaded has its default in the field.

Nothing is read from a field in any of the three cases: no integer, and no word. So whatever instance
one of the objects stores, the other stores one that is alike (`Instance.ofTree?_alike`), and alike
instances load the same.

Not established, because it is not so: that the complaints are equal where other members make both
objects unreadable. The reader of JSON names the place at which it stops, and a member that is there
moves it (`Settings.ofInstance_unset_refused`). What it says is a parameter here; only that it is said
of the text itself is used.
-/

namespace FrameSource

/-! ## The members with a name -/

namespace Json

variable {names : List String} {members : List (List StringUnit × Tree)}
  {named : List (String × Tree)}

/-- Whether a member has one of the names. -/
def hasName (names : List String) (m : List StringUnit × Tree) : Bool :=
  (text? m.1).any names.contains

/-- What an object holds under the names, in order. -/
def valuesOf (names : List String) (members : List (List StringUnit × Tree)) : List Tree :=
  (members.filter (hasName names)).map Prod.snd

/-- The members of an object with other names. -/
def others (names : List String) (members : List (List StringUnit × Tree)) :
    List (List StringUnit × Tree) :=
  members.filter fun m => !hasName names m

theorem namedMembers?_split (names : List String) (h : namedMembers? members = some named) :
    namedMembers? (others names members) = some (named.filter fun m => !names.contains m.1) ∧
      valuesOf names members = (named.filter fun m => names.contains m.1).map Prod.snd := by
  induction forall₂_of_mapM h with
  | nil => exact ⟨rfl, rfl⟩
  | @cons m n members named hread htail ih =>
    obtain ⟨hothers, hvalues⟩ := ih (mapM_of_forall₂ htail)
    obtain ⟨key, hkey, rfl⟩ := Option.map_eq_some_iff.mp hread
    have hhas : hasName names m = names.contains key := by
      rw [hasName, hkey, Option.any_some]
    unfold others valuesOf at *
    cases hname : names.contains key with
    | true =>
      simp only [List.filter_cons, hhas, hname, Bool.not_true, Bool.false_eq_true, if_true, if_false,
        List.map_cons]
      exact ⟨hothers, congrArg _ hvalues⟩
    | false =>
      simp only [List.filter_cons, hhas, hname, Bool.not_false, Bool.false_eq_true, if_true, if_false]
      exact ⟨mapM_of_forall₂ (.cons hread (forall₂_of_mapM hothers)), hvalues⟩

/-- Objects with the same other members have readable names together. -/
theorem namedMembers?_of_others_eq {members' : List (List StringUnit × Tree)}
    (hothers : others names members = others names members')
    (h : namedMembers? members = some named) :
    ∃ named', namedMembers? members' = some named' ∧
      named'.filter (fun m => !names.contains m.1) = named.filter fun m => !names.contains m.1 := by
  have hrest := (namedMembers?_split names h).1
  rw [hothers] at hrest
  have hreadable : ∀ m ∈ members', ∃ n, (text? m.1).map (fun name => (name, m.2)) = some n := by
    intro m hm
    cases hname : hasName names m with
    | true =>
      obtain ⟨key, hkey, _⟩ := (Option.any_eq_true _ _).mp hname
      exact ⟨_, Option.map_eq_some_iff.mpr ⟨key, hkey, rfl⟩⟩
    | false =>
      have hother : m ∈ others names members' := List.mem_filter.mpr ⟨hm, by rw [hname]; rfl⟩
      obtain ⟨n, _, hn⟩ := forall₂_exists_right (forall₂_of_mapM hrest) hother
      exact ⟨n, hn⟩
  obtain ⟨named', hnamed'⟩ := exists_mapM hreadable
  have hrest' := (namedMembers?_split names hnamed').1
  exact ⟨named', hnamed', Option.some.inj (hrest'.symm.trans hrest)⟩

/-- A field is read from what the object holds under its names. -/
theorem field?_eq_of_values {o : Option Tree} (h : namedMembers? members = some named)
    (hvalues : valuesOf names members = o.toList) : field? named names = some o := by
  rw [(namedMembers?_split names h).2] at hvalues
  unfold field?
  cases o with
  | none => rw [List.map_eq_nil_iff.mp hvalues]
  | some t =>
    obtain ⟨m, hm, rfl⟩ := List.map_eq_singleton_iff.mp hvalues
    rw [hm]

/-- A field that is read as one thing is read as no other. -/
theorem exists_read_iff {α : Type} {read : Option Tree → Option α} {t : Option Tree} {a : α}
    (hfield : field? named names = some t) (hread : read t = some a) (a' : α) :
    (∃ t', field? named names = some t' ∧ read t' = some a') ↔ a' = a := by
  constructor
  · rintro ⟨t', ht', hread'⟩
    obtain rfl := Option.some.inj (hfield.symm.trans ht')
    exact Option.some.inj (hread'.symm.trans hread)
  · rintro rfl
    exact ⟨t, hfield, hread⟩

/-- Members with the names of one field are not seen by another. -/
theorem field?_filter {names' : List String} (h : names'.Disjoint names) :
    field? (named.filter fun m => !names.contains m.1) names' = field? named names' := by
  have hsame : ((named.filter fun m => !names.contains m.1).filter fun m => names'.contains m.1) =
      named.filter fun m => names'.contains m.1 := by
    rw [List.filter_filter]
    refine List.filter_congr fun m _ => ?_
    cases hm : names'.contains m.1 with
    | true =>
      have hnot : names.contains m.1 = false := by
        rw [← Bool.not_eq_true, List.contains_iff_mem]
        exact h (List.contains_iff_mem.mp hm)
      rw [hnot]
      rfl
    | false => rfl
  unfold field?
  rw [hsame]

end Json

namespace Instance

open Json (HoldsText HoldsNumber holdsText_iff holdsNumber_iff)

/-! ## The three ways to leave a field unset -/

/-- A field of an instance. -/
inductive Field where
  | text (f : TextField)
  | number (f : NumberField)

namespace Field

/-- The names that the field may have in JSON. -/
def names : Field → List String
  | .text f => f.names
  | .number f => [f.name]

/-- The texts that stand for nothing: those of blanks alone for a number, and the empty one for a
word. -/
def IsVoid (s : String) : Field → Prop
  | .text .tlsMode => s = ""
  | .text .tlsMethod => s = ""
  | .text _ => False
  | .number _ => ∀ c ∈ s.toList, Text.isBlank c = true

/-- What an object holds under the names of a field that is left unset: nothing, or `null`, or a text
that stands for nothing. -/
inductive LeftUnset (f : Field) : List Json.Tree → Prop where
  | absent : f.LeftUnset []
  | null : f.LeftUnset [.null]
  | void {units : List Json.StringUnit} {s : String} (read : Json.text? units = some s)
      (void : f.IsVoid s) : f.LeftUnset [.string units]

/-- The field is not set in an instance. -/
def IsUnset (i : Instance) : Field → Prop
  | .text f => f.read (f.get i) = none
  | .number f => Denotes (f.get i) none

/-- The settings have their default in the field. -/
def IsDefault (s : Settings) : Field → Prop
  | .text .server => s.server = Settings.default.server
  | .text .username => s.username = Settings.default.username
  | .text .tlsMode => s.tlsMode = Settings.default.tlsMode
  | .text .tlsMethod => s.tlsMethod = Settings.default.tlsMethod
  | .text .tlsCaCertFile => s.tlsCaCertFile = Settings.default.tlsCaCertFile
  | .text .tlsClientCertFile => s.tlsClientCertFile = Settings.default.tlsClientCertFile
  | .text .tlsClientKeyFile => s.tlsClientKeyFile = Settings.default.tlsClientKeyFile
  | .number .port => s.port = Settings.default.port
  | .number .timeout => s.timeout = Settings.default.timeout
  | .number .queryTimeout => s.queryTimeout = Settings.default.queryTimeout
  | .number .maxOpenConnections => s.maxOpenConnections = Settings.default.maxOpenConnections
  | .number .maxIdleConnections => s.maxIdleConnections = Settings.default.maxIdleConnections
  | .number .maxConnectionLifetime =>
    s.maxConnectionLifetime = Settings.default.maxConnectionLifetime

/-- The field with a name. -/
def byName : String → Option Field
  | "server" => some (.text .server)
  | "port" => some (.number .port)
  | "username" => some (.text .username)
  | "timeout" => some (.number .timeout)
  | "queryTimeout" => some (.number .queryTimeout)
  | "maxOpenConnections" => some (.number .maxOpenConnections)
  | "maxIdleConnections" => some (.number .maxIdleConnections)
  | "maxConnectionLifetime" => some (.number .maxConnectionLifetime)
  | "tlsMode" => some (.text .tlsMode)
  | "tlsConfigurationMethod" => some (.text .tlsMethod)
  | "tlsCaCertFile" => some (.text .tlsCaCertFile)
  | "tlsCACertFile" => some (.text .tlsCaCertFile)
  | "tlsClientCertFile" => some (.text .tlsClientCertFile)
  | "tlsClientKeyFile" => some (.text .tlsClientKeyFile)
  | _ => none

theorem byName_of_mem {f : Field} {name : String} (h : name ∈ f.names) : byName name = some f := by
  have hall : ∀ name ∈ f.names, byName name = some f := by
    cases f with
    | text f =>
      cases f with
      | tlsCaCertFile => exact List.forall_mem_cons.mpr ⟨rfl, List.forall_mem_singleton.mpr rfl⟩
      | _ => exact List.forall_mem_singleton.mpr rfl
    | number f => cases f <;> exact List.forall_mem_singleton.mpr rfl
  exact hall name h

theorem disjoint_names {f g : Field} (h : f ≠ g) : f.names.Disjoint g.names := by
  intro name hf hg
  have heq := (byName_of_mem hf).symm.trans (byName_of_mem hg)
  exact h (Option.some.inj heq)

end Field

/-- An empty text and an absent one are read alike, by every text field. -/
theorem read_of_void {f : TextField} {s : Option String}
    (h : ∀ w ∈ s, (Field.text f).IsVoid w) : f.read s = none := by
  cases s with
  | none => cases f <;> rfl
  | some w =>
    have hvoid := h w rfl
    cases f with
    | tlsMode =>
      obtain rfl : w = "" := hvoid
      rfl
    | tlsMethod =>
      obtain rfl : w = "" := hvoid
      rfl
    | _ => exact hvoid.elim

/-- A number that is left out and one that is a void text denote that nothing is set. -/
theorem denotes_of_void {f : NumberField} {s : Option String}
    (h : ∀ w ∈ s, (Field.number f).IsVoid w) : Denotes (s.map HostNumber.text) none := by
  cases s with
  | none => exact .unset
  | some w => exact .stored (.blank (h w rfl))

theorem readInt_of_denotes {h : Option HostNumber} {n : Option ℤ} (hd : Denotes h n)
    (field : String) : readInt field h = .ok n := by
  cases hd with
  | unset => rfl
  | stored hd => exact HostNumber.toInt_of_denotes hd

namespace Field.LeftUnset

variable {members : List (List Json.StringUnit × Json.Tree)} {named : List (String × Json.Tree)}

/-- What is left unset is read as no text or as one that stands for nothing, and as the same where a
number is wanted. -/
theorem exists_field {f : Field} {ts : List Json.Tree} (h : f.LeftUnset ts) :
    ∃ (t : Option Json.Tree) (s : Option String), ts = t.toList ∧
      RecordSource.orDefault none (Json.source.optional? Json.Tree.string?) t = some s ∧
      RecordSource.orDefault none (Json.source.optional? HostNumber.ofTree?) t =
        some (s.map HostNumber.text) ∧
      ∀ w ∈ s, f.IsVoid w := by
  cases h with
  | absent => exact ⟨none, none, rfl, rfl, rfl, nofun⟩
  | null => exact ⟨some .null, none, rfl, rfl, rfl, nofun⟩
  | @void units s read void =>
    have htext : RecordSource.orDefault none (Json.source.optional? Json.Tree.string?)
        (some (.string units)) = (Json.text? units).map some := rfl
    have hnumber : RecordSource.orDefault none (Json.source.optional? HostNumber.ofTree?)
        (some (.string units)) = ((Json.text? units).map HostNumber.text).map some := rfl
    refine ⟨some (.string units), some s, rfl, ?_, ?_, ?_⟩
    · rw [htext, read, Option.map_some]
    · rw [hnumber, read]
      rfl
    · rintro _ ⟨⟩
      exact void

/-- Of a field of texts that is left unset, exactly one thing is stored. -/
theorem exists_holdsText {f : TextField} (hnamed : Json.namedMembers? members = some named)
    (h : (Field.text f).LeftUnset (Json.valuesOf f.names members)) :
    ∃ s, f.read s = none ∧ ∀ s', HoldsText named f.names s' ↔ s' = s := by
  obtain ⟨t, s, hvalues, hread, _, hvoid⟩ := h.exists_field
  have hfield := Json.field?_eq_of_values hnamed hvalues
  refine ⟨s, read_of_void hvoid, fun s' => ?_⟩
  rw [holdsText_iff]
  exact Json.exists_read_iff hfield hread s'

/-- Of a field of numbers that is left unset, exactly one thing is stored. -/
theorem exists_holdsNumber {f : NumberField} (hnamed : Json.namedMembers? members = some named)
    (h : (Field.number f).LeftUnset (Json.valuesOf [f.name] members)) :
    ∃ n, Denotes n none ∧ ∀ n', HoldsNumber named [f.name] n' ↔ n' = n := by
  obtain ⟨t, s, hvalues, _, hread, hvoid⟩ := h.exists_field
  have hfield := Json.field?_eq_of_values hnamed hvalues
  refine ⟨s.map HostNumber.text, denotes_of_void hvoid, fun n' => ?_⟩
  rw [holdsNumber_iff]
  exact Json.exists_read_iff hfield hread n'

/-- A field that is left unset in a document is unset in the instance that is read from it. -/
theorem isUnset_of_storedIn {f : Field} {i : Instance}
    (h : f.LeftUnset (Json.valuesOf f.names members))
    (hnamed : Json.namedMembers? members = some named) (hi : i.StoredIn named) : f.IsUnset i := by
  cases f with
  | text f =>
    obtain ⟨s, hs, hunique⟩ := exists_holdsText hnamed h
    rw [Field.IsUnset, (hunique _).mp (hi.texts f)]
    exact hs
  | number f =>
    obtain ⟨n, hn, hunique⟩ := exists_holdsNumber hnamed h
    rw [Field.IsUnset, (hunique _).mp (hi.numbers f)]
    exact hn

end Field.LeftUnset

/-- Objects with the same other members, in which a field is left unset, store instances that are
alike. -/
theorem ofTree?_alike {f : Field} {members members' : List (List Json.StringUnit × Json.Tree)}
    (hothers : Json.others f.names members = Json.others f.names members')
    (h : f.LeftUnset (Json.valuesOf f.names members))
    (h' : f.LeftUnset (Json.valuesOf f.names members')) {i : Instance}
    (hi : ofTree? (.object members) = some i) :
    ∃ i', ofTree? (.object members') = some i' ∧ i.Alike i' := by
  obtain ⟨named, hnamed, hstored⟩ := ofTree?_object_eq_some_iff.mp hi
  obtain ⟨named', hnamed', hsame⟩ := Json.namedMembers?_of_others_eq hothers hnamed
  have hfield : ∀ g : Field, g ≠ f → Json.field? named' g.names = Json.field? named g.names := by
    intro g hg
    have hdisjoint := Field.disjoint_names hg
    rw [← Json.field?_filter hdisjoint, hsame, Json.field?_filter hdisjoint]
  -- Each field is the one left unset, or is looked up among the members that both objects have.
  have htexts : ∀ g : TextField, ∃ s, HoldsText named' g.names s ∧
      g.read (g.get i) = g.read s := by
    intro g
    by_cases hg : Field.text g = f
    · subst hg
      obtain ⟨s, hs, hunique⟩ := Field.LeftUnset.exists_holdsText hnamed' h'
      exact ⟨s, (hunique s).mpr rfl, (h.isUnset_of_storedIn hnamed hstored).trans hs.symm⟩
    · refine ⟨g.get i, ?_, rfl⟩
      have hsameField := hfield (.text g) hg
      rw [Field.names] at hsameField
      rw [holdsText_iff, hsameField, ← holdsText_iff]
      exact hstored.texts g
  have hnumbers : ∀ g : NumberField, ∃ n, HoldsNumber named' [g.name] n ∧
      readInt g.name (g.get i) = readInt g.name n := by
    intro g
    by_cases hg : Field.number g = f
    · subst hg
      obtain ⟨n, hn, hunique⟩ := Field.LeftUnset.exists_holdsNumber hnamed' h'
      have hunset : Denotes (g.get i) none := h.isUnset_of_storedIn hnamed hstored
      refine ⟨n, (hunique n).mpr rfl, ?_⟩
      rw [readInt_of_denotes hunset, readInt_of_denotes hn]
    · refine ⟨g.get i, ?_, rfl⟩
      have hsameField := hfield (.number g) hg
      rw [Field.names] at hsameField
      rw [holdsNumber_iff, hsameField, ← holdsNumber_iff]
      exact hstored.numbers g
  obtain ⟨i', hstored', htexts', hnumbers'⟩ := exists_storedIn htexts hnumbers
  exact ⟨i', ofTree?_object_eq_some_iff.mpr ⟨named', hnamed', hstored'⟩, htexts', hnumbers'⟩

/-! ## The default -/

/-- An unset number gives the default; so does an unset count of seconds, below. -/
theorem int64_eq_of_unset {h : Option HostNumber} {a d : Int64} (hd : Denotes h none)
    (ha : ∃ n, Denotes h n ∧ a.toInt = n.getD d.toInt) : a = d := by
  obtain ⟨n, hn, hvalue⟩ := ha
  cases hn.unique hd
  exact Int64.toInt_inj.mp hvalue

theorem uint64_eq_of_unset {h : Option HostNumber} {a d : UInt64} (hd : Denotes h none)
    (ha : ∃ n, Denotes h n ∧ a.toNat = n.getD (d.toNat : ℤ)) : a = d := by
  obtain ⟨n, hn, hvalue⟩ := ha
  cases hn.unique hd
  exact UInt64.toNat_inj.mp (Int.ofNat_inj.mp hvalue)

/-- A word that is left out or empty names no mode, as no mode has an empty name. -/
theorem Names.eq_none {α : Type} {word : α → String} (hempty : ∀ a, word a ≠ "")
    {s : Option String} {m : Option α} (h : s.filter (· ≠ "") = none) (hm : Names word s m) :
    m = none := by
  cases hm with
  | unset => rfl
  | empty => rfl
  | known a =>
    rw [Option.filter_some, if_pos (decide_eq_true (hempty a))] at h
    cases h

/-- Whatever else an instance says, an unset field has its default in the settings. -/
theorem Field.IsUnset.isDefault {f : Field} {i : Instance} {secret : String → Option String}
    {s : Settings} (h : f.IsUnset i) (hs : i.Yields secret s) : f.IsDefault s := by
  cases f with
  | text f =>
    cases f with
    | server => exact hs.server.trans (by rw [show i.server = none from h]; rfl)
    | username => exact hs.username.trans (by rw [show i.username = none from h]; rfl)
    | tlsMode =>
      obtain ⟨m, hm, hvalue⟩ := hs.tlsMode
      rw [Names.eq_none TlsMode.word_ne_empty h hm] at hvalue
      exact hvalue
    | tlsMethod => exact Names.eq_none TlsMethod.word_ne_empty h hs.tlsMethod
    | tlsCaCertFile => exact hs.tlsCaCertFile.trans h
    | tlsClientCertFile => exact hs.tlsClientCertFile.trans h
    | tlsClientKeyFile => exact hs.tlsClientKeyFile.trans h
  | number f =>
    cases f with
    | port => exact int64_eq_of_unset h hs.port
    | timeout => exact uint64_eq_of_unset h hs.timeout
    | queryTimeout => exact uint64_eq_of_unset h hs.queryTimeout
    | maxOpenConnections => exact int64_eq_of_unset h hs.maxOpenConnections
    | maxIdleConnections => exact int64_eq_of_unset h hs.maxIdleConnections
    | maxConnectionLifetime => exact int64_eq_of_unset h hs.maxConnectionLifetime

end Instance

/-- **A field left unset is the same in every way.** Objects that have the same other members and leave
a field unset, each in one of the three ways, load alike: with equal results, complaints included, or
refused both, each in the words of the reader of JSON. What is loaded has its default in that
field. -/
theorem Settings.ofInstance_unset (f : Instance.Field) (refusal : String → String)
    (secret : String → Option String) {json json' : String}
    {members members' : List (List Json.StringUnit × Json.Tree)}
    (hparse : Json.Tree.parse? json = some (.object members))
    (hparse' : Json.Tree.parse? json' = some (.object members'))
    (hothers : Json.others f.names members = Json.others f.names members')
    (h : f.LeftUnset (Json.valuesOf f.names members))
    (h' : f.LeftUnset (Json.valuesOf f.names members')) :
    LoadAlike refusal secret json json' ∧
      ∀ s, ofInstance refusal json secret = .ok s → f.IsDefault s := by
  refine ⟨loadAlike_of_objects hparse hparse' ?_ ?_, ?_⟩
  · intro i hi
    obtain ⟨i', hi', halike⟩ := Instance.ofTree?_alike hothers h h' hi
    exact ⟨i', hi', Instance.load_alike halike secret⟩
  · intro i' hi'
    obtain ⟨i, hi, _⟩ := Instance.ofTree?_alike hothers.symm h' h hi'
    exact ⟨i, hi⟩
  · intro s hs
    cases hi : Instance.ofTree? (.object members) with
    | none =>
      rw [ofInstance_of_none hparse hi] at hs
      cases hs
    | some i =>
      rw [ofInstance_of_some hparse hi] at hs
      obtain ⟨named, hnamed, hstored⟩ := Instance.ofTree?_object_eq_some_iff.mp hi
      have hunset := h.isUnset_of_storedIn hnamed hstored
      exact hunset.isDefault ((Instance.checked_load i secret).result s hs)

/-- An instance in JSON without a limit. -/
def unlimited : String :=
  "\x7b\"server\":\"s\",\"port\":1,\"username\":\"u\"\x7d"

/-- An absent limit loads like one of blanks alone and like one that is `null`: as the default. -/
theorem Settings.ofInstance_unset_limit :
    ofInstance serverRefusal unlimited passwordAlone =
        ofInstance serverRefusal (limitedTo "\"\\u2003 \"") passwordAlone ∧
      ofInstance serverRefusal unlimited passwordAlone =
        ofInstance serverRefusal (limitedTo "null") passwordAlone ∧
      ∃ s, ofInstance serverRefusal unlimited passwordAlone = .ok s ∧
        s.maxOpenConnections = default.maxOpenConnections := by
  let f : Instance.Field := .number .maxOpenConnections
  let key := Json.plainUnits "maxOpenConnections"
  have habsent : Json.Tree.parse? unlimited = some (.object limitedMembers) := rfl
  have hblank : Json.Tree.parse? (limitedTo "\"\\u2003 \"") =
      some (.object (limitedMembers ++ [(key, .string [.code 0x2003, .char ' '])])) := rfl
  have hnull : Json.Tree.parse? (limitedTo "null") =
      some (.object (limitedMembers ++ [(key, .null)])) := rfl
  have hvoid : Text.isBlankText "\u2003 " = true := by decide +kernel
  obtain ⟨i, hi⟩ : ∃ i, Instance.ofTree? (.object limitedMembers) = some i := ⟨_, rfl⟩
  have hloads : ∃ s, ofInstance serverRefusal unlimited passwordAlone = .ok s := by
    rw [ofInstance_of_some habsent hi]
    cases hi
    exact ⟨_, rfl⟩
  have hholds := (ofText?_of_parse habsent).trans hi
  obtain ⟨hsame, hdefault⟩ := ofInstance_unset f serverRefusal passwordAlone habsent hblank rfl
    .absent (.void rfl (List.all_eq_true.mp hvoid))
  obtain ⟨hsame', _⟩ :=
    ofInstance_unset f serverRefusal passwordAlone habsent hnull rfl .absent .null
  obtain ⟨s, hs⟩ := hloads
  exact ⟨hsame.eq_of_holds hholds, hsame'.eq_of_holds hholds, s, hs, hdefault s hs⟩

/-- Beside a server that is no text, a port that is absent and one that is `null` do not load the same:
the reader of JSON stops at the server, which is at another column. -/
theorem Settings.ofInstance_unset_refused :
    Json.Tree.parse? (misserved "") =
      some (.object [(Json.plainUnits "server", .number ⟨false, ['5'], [], none⟩)]) ∧
    Json.Tree.parse? (misserved "\"port\":null,") =
      some (.object [(Json.plainUnits "port", .null),
        (Json.plainUnits "server", .number ⟨false, ['5'], [], none⟩)]) ∧
    ofInstance serverRefusal (misserved "") passwordAlone =
      .error (.invalidJson "invalid type: integer `5`, expected a string at line 1 column 11") ∧
    ofInstance serverRefusal (misserved "\"port\":null,") passwordAlone =
      .error (.invalidJson "invalid type: integer `5`, expected a string at line 1 column 23") ∧
    ofInstance serverRefusal (misserved "") passwordAlone ≠
      ofInstance serverRefusal (misserved "\"port\":null,") passwordAlone := by
  have habsent : ofInstance serverRefusal (misserved "") passwordAlone = .error
      (.invalidJson "invalid type: integer `5`, expected a string at line 1 column 11") := by
    decide +kernel
  have hnull : ofInstance serverRefusal (misserved "\"port\":null,") passwordAlone = .error
      (.invalidJson "invalid type: integer `5`, expected a string at line 1 column 23") := by
    decide +kernel
  refine ⟨rfl, rfl, habsent, hnull, ?_⟩
  rw [habsent, hnull]
  decide

end FrameSource
