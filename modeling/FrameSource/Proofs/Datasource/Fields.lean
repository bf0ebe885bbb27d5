import FrameSource.Datasource.Instance
import FrameSource.Proofs.Alignment

/-!
# Fields of instances

An instance in JSON is an object, each of whose fields is absent, `null`, a text or a number. What
is stored under a name is a relation between the members of the object and the field; reading an
instance is proved to find exactly what is stored.

Loading does not look at everything that is stored. **Instances that are alike load the same**
(`Instance.load_alike`): those from whose fields the same integers and texts are read.
-/

namespace FrameSource

namespace Json

/-- What the named members of an object hold under one of the names: nothing, or one value. -/
inductive Holds (named : List (String × Tree)) (names : List String) : Option Tree → Prop where
  | absent (others : ∀ m ∈ named, m.1 ∉ names) : Holds named names none
  | given {before after : List (String × Tree)} {name : String} {t : Tree}
      (members : named = before ++ (name, t) :: after) (known : name ∈ names)
      (others : ∀ m ∈ before ++ after, m.1 ∉ names) : Holds named names (some t)

/-- A field that holds a text. -/
inductive HoldsText (named : List (String × Tree)) (names : List String) : Option String → Prop where
  | absent (h : Holds named names none) : HoldsText named names none
  | null (h : Holds named names (some .null)) : HoldsText named names none
  | string {units : List StringUnit} {s : String} (h : Holds named names (some (.string units)))
      (read : text? units = some s) : HoldsText named names (some s)

/-- A field that holds a number, as a number or as a text. -/
inductive HoldsNumber (named : List (String × Tree)) (names : List String) :
    Option HostNumber → Prop where
  | absent (h : Holds named names none) : HoldsNumber named names none
  | null (h : Holds named names (some .null)) : HoldsNumber named names none
  | string {units : List StringUnit} {s : String} (h : Holds named names (some (.string units)))
      (read : text? units = some s) : HoldsNumber named names (some (.text s))
  | number {n : Numeral} {x : Double} (h : Holds named names (some (.number n)))
      (read : HostNumber.ofTree? (.number n) = some (.number x)) :
      HoldsNumber named names (some (.number x))

variable {named : List (String × Tree)} {names : List String}

/-- What the derived reader does with the members of an object: it takes a single one that has one
of the field's names, and fails where there are several. -/
theorem field?_eq_some_iff {t : Option Tree} :
    field? named names = some t ↔ Holds named names t := by
  unfold field?
  constructor
  · intro h
    split at h
    · next hnone =>
      cases h
      refine .absent fun m hm hname => ?_
      exact List.filter_eq_nil_iff.mp hnone m hm (List.contains_iff_mem.mpr hname)
    · next m hone =>
      cases h
      obtain ⟨before, after, hmembers, hbefore, hm, hafter⟩ := List.filter_eq_cons_iff.mp hone
      refine .given hmembers (List.contains_iff_mem.mp hm) fun m' hm' hname => ?_
      obtain hin | hin := List.mem_append.mp hm'
      · exact hbefore m' hin (List.contains_iff_mem.mpr hname)
      · exact List.filter_eq_nil_iff.mp hafter m' hin (List.contains_iff_mem.mpr hname)
    · cases h
  · intro h
    have hdrop : ∀ ms : List (String × Tree), (∀ m ∈ ms, m.1 ∉ names) →
        ms.filter (fun m => names.contains m.1) = [] := by
      intro ms hms
      exact List.filter_eq_nil_iff.mpr fun m hm hname =>
        hms m hm (List.contains_iff_mem.mp hname)
    cases h with
    | absent others => rw [hdrop named others]
    | @given before after name t members known others =>
      have hbefore := hdrop before fun m hm => others m (List.mem_append_left _ hm)
      have hafter := hdrop after fun m hm => others m (List.mem_append_right _ hm)
      rw [members, List.filter_append, List.filter_cons, hbefore, hafter,
        if_pos (List.contains_iff_mem.mpr known)]
      rfl

/-- A field reads as `a` when it is not set and `a` is none, or when its value reads as `a`. -/
theorem exists_field_iff {α : Type} {read : Tree → Option α} {a : Option α} :
    (∃ t, field? named names = some t ∧
        RecordSource.orDefault none (source.optional? read) t = some a) ↔
      (a = none ∧ (Holds named names none ∨ Holds named names (some .null))) ∨
        ∃ t b, t.isNull = false ∧ Holds named names (some t) ∧ read t = some b ∧ a = some b := by
  have hoptional : ∀ t : Tree, t.isNull = false → source.optional? read t = (read t).map some := by
    intro t hnull
    exact if_neg fun h => Bool.false_ne_true (hnull.symm.trans h)
  constructor
  · rintro ⟨t, ht, hread⟩
    have hholds := field?_eq_some_iff.mp ht
    cases t with
    | none =>
      cases hread
      exact Or.inl ⟨rfl, Or.inl hholds⟩
    | some t =>
      cases hnull : t.isNull with
      | true =>
        cases t with
        | null =>
          cases hread
          exact Or.inl ⟨rfl, Or.inr hholds⟩
        | _ => cases hnull
      | false =>
        rw [RecordSource.orDefault, hoptional t hnull] at hread
        obtain ⟨b, hb, hab⟩ := Option.map_eq_some_iff.mp hread
        exact Or.inr ⟨t, b, hnull, hholds, hb, hab.symm⟩
  · rintro (⟨rfl, habsent | hnull⟩ | ⟨t, b, hnull, hholds, hread, rfl⟩)
    · exact ⟨none, field?_eq_some_iff.mpr habsent, rfl⟩
    · exact ⟨some .null, field?_eq_some_iff.mpr hnull, rfl⟩
    · exact ⟨some t, field?_eq_some_iff.mpr hholds, (hoptional t hnull).trans (by rw [hread]; rfl)⟩

/-- A text field is left out or holds a text; `null` is as good as leaving it out. -/
theorem holdsText_iff {s : Option String} :
    HoldsText named names s ↔ ∃ t, field? named names = some t ∧
      RecordSource.orDefault none (source.optional? Tree.string?) t = some s := by
  rw [exists_field_iff]
  constructor
  · intro h
    cases h with
    | absent h => exact Or.inl ⟨rfl, Or.inl h⟩
    | null h => exact Or.inl ⟨rfl, Or.inr h⟩
    | string h read => exact Or.inr ⟨_, _, rfl, h, read, rfl⟩
  · rintro (⟨rfl, habsent | hnull⟩ | ⟨t, b, _, hholds, hread, rfl⟩)
    · exact .absent habsent
    · exact .null hnull
    · cases t with
      | string units => exact .string hholds hread
      | _ => cases hread

/-- The two forms of a number of the host stay apart: a numeral is never read as a text. -/
theorem ofTree?_number_ne_text (n : Numeral) (s : String) :
    HostNumber.ofTree? (.number n) ≠ some (.text s) := by
  intro h
  simp only [HostNumber.ofTree?] at h
  split at h <;> cases h

/-- A number of the host may be left out, be `null`, or be given as a numeral or as a text. -/
theorem holdsNumber_iff {n : Option HostNumber} :
    HoldsNumber named names n ↔ ∃ t, field? named names = some t ∧
      RecordSource.orDefault none (source.optional? HostNumber.ofTree?) t = some n := by
  rw [exists_field_iff]
  constructor
  · intro h
    cases h with
    | absent h => exact Or.inl ⟨rfl, Or.inl h⟩
    | null h => exact Or.inl ⟨rfl, Or.inr h⟩
    | string h read => exact Or.inr ⟨_, _, rfl, h, Option.map_eq_some_iff.mpr ⟨_, read, rfl⟩, rfl⟩
    | number h read => exact Or.inr ⟨_, _, rfl, h, read, rfl⟩
  · rintro (⟨rfl, habsent | hnull⟩ | ⟨t, b, _, hholds, hread, rfl⟩)
    · exact .absent habsent
    · exact .null hnull
    · cases t with
      | string units =>
        obtain ⟨s, hs, rfl⟩ := Option.map_eq_some_iff.mp hread
        exact .string hholds hs
      | number numeral =>
        cases b with
        | number x => exact .number hholds hread
        | text s => exact absurd hread (ofTree?_number_ne_text numeral s)
      | _ => cases hread

end Json

namespace Instance

open Json (HoldsText HoldsNumber holdsText_iff holdsNumber_iff)

/-- The fields that hold texts. -/
inductive TextField where
  | server
  | username
  | tlsMode
  | tlsMethod
  | tlsCaCertFile
  | tlsClientCertFile
  | tlsClientKeyFile

/-- The names that a field of texts may have in JSON. -/
def TextField.names : TextField → List String
  | .server => ["server"]
  | .username => ["username"]
  | .tlsMode => ["tlsMode"]
  | .tlsMethod => ["tlsConfigurationMethod"]
  | .tlsCaCertFile => ["tlsCaCertFile", "tlsCACertFile"]
  | .tlsClientCertFile => ["tlsClientCertFile"]
  | .tlsClientKeyFile => ["tlsClientKeyFile"]

/-- A field of texts of an instance. -/
def TextField.get (i : Instance) : TextField → Option String
  | .server => i.server
  | .username => i.username
  | .tlsMode => i.tlsMode
  | .tlsMethod => i.tlsMethod
  | .tlsCaCertFile => i.tlsCaCertFile
  | .tlsClientCertFile => i.tlsClientCertFile
  | .tlsClientKeyFile => i.tlsClientKeyFile

/-- The fields that hold numbers. -/
inductive NumberField where
  | port
  | timeout
  | queryTimeout
  | maxOpenConnections
  | maxIdleConnections
  | maxConnectionLifetime

/-- The name of a field of numbers in JSON. -/
def NumberField.name : NumberField → String
  | .port => "port"
  | .timeout => "timeout"
  | .queryTimeout => "queryTimeout"
  | .maxOpenConnections => "maxOpenConnections"
  | .maxIdleConnections => "maxIdleConnections"
  | .maxConnectionLifetime => "maxConnectionLifetime"

/-- A field of numbers of an instance. -/
def NumberField.get (i : Instance) : NumberField → Option HostNumber
  | .port => i.port
  | .timeout => i.timeout
  | .queryTimeout => i.queryTimeout
  | .maxOpenConnections => i.maxOpenConnections
  | .maxIdleConnections => i.maxIdleConnections
  | .maxConnectionLifetime => i.maxConnectionLifetime

/-- The named members of an object store an instance when every field holds what the instance has in
it. -/
structure StoredIn (i : Instance) (named : List (String × Json.Tree)) : Prop where
  texts : ∀ f : TextField, HoldsText named f.names (f.get i)
  numbers : ∀ f : NumberField, HoldsNumber named [f.name] (f.get i)

/-- Members store an instance when they store something in each field. -/
theorem exists_storedIn {named : List (String × Json.Tree)} {P : TextField → Option String → Prop}
    {Q : NumberField → Option HostNumber → Prop}
    (htexts : ∀ f : TextField, ∃ s, HoldsText named f.names s ∧ P f s)
    (hnumbers : ∀ f : NumberField, ∃ n, HoldsNumber named [f.name] n ∧ Q f n) :
    ∃ i : Instance, i.StoredIn named ∧ (∀ f : TextField, P f (f.get i)) ∧
      ∀ f : NumberField, Q f (f.get i) := by
  -- The fields are chosen independently, so they make up one record.
  choose texts hholds hP using htexts
  choose numbers hholds' hQ using hnumbers
  let i : Instance :=
    { server := texts .server
      port := numbers .port
      username := texts .username
      timeout := numbers .timeout
      queryTimeout := numbers .queryTimeout
      maxOpenConnections := numbers .maxOpenConnections
      maxIdleConnections := numbers .maxIdleConnections
      maxConnectionLifetime := numbers .maxConnectionLifetime
      tlsMode := texts .tlsMode
      tlsMethod := texts .tlsMethod
      tlsCaCertFile := texts .tlsCaCertFile
      tlsClientCertFile := texts .tlsClientCertFile
      tlsClientKeyFile := texts .tlsClientKeyFile }
  have htext : ∀ f : TextField, f.get i = texts f := by
    intro f
    cases f <;> rfl
  have hnumber : ∀ f : NumberField, f.get i = numbers f := by
    intro f
    cases f <;> rfl
  refine ⟨i, ⟨fun f => ?_, fun f => ?_⟩, fun f => ?_, fun f => ?_⟩
  · exact (htext f).symm ▸ hholds f
  · exact (hnumber f).symm ▸ hholds' f
  · exact (htext f).symm ▸ hP f
  · exact (hnumber f).symm ▸ hQ f

/-- An instance that is read is stored: each of the thirteen readings is one of a field. -/
theorem storedIn_of_ofTree? {members : List (List Json.StringUnit × Json.Tree)} {i : Instance}
    (h : ofTree? (.object members) = some i) :
    ∃ named, Json.namedMembers? members = some named ∧ i.StoredIn named := by
  unfold ofTree? Json.Tree.fields? at h
  obtain ⟨ts, hts, hread⟩ := Option.bind_eq_some_iff.mp h
  obtain ⟨named, hnamed, hfields⟩ := Option.bind_eq_some_iff.mp hts
  obtain _ | ⟨hServer, _ | ⟨hPort, _ | ⟨hUsername, _ | ⟨hTimeout, _ | ⟨hQuery, _ | ⟨hMaxOpen, _ |
    ⟨hMaxIdle, _ | ⟨hLifetime, _ | ⟨hTlsMode, _ | ⟨hTlsMethod, _ | ⟨hCaCert, _ | ⟨hClientCert, _ |
    ⟨hClientKey, _ | _⟩⟩⟩⟩⟩⟩⟩⟩⟩⟩⟩⟩⟩ := forall₂_of_mapM hfields
  obtain ⟨_, rServer, hread⟩ := Option.bind_eq_some_iff.mp hread
  obtain ⟨_, rPort, hread⟩ := Option.bind_eq_some_iff.mp hread
  obtain ⟨_, rUsername, hread⟩ := Option.bind_eq_some_iff.mp hread
  obtain ⟨_, rTimeout, hread⟩ := Option.bind_eq_some_iff.mp hread
  obtain ⟨_, rQuery, hread⟩ := Option.bind_eq_some_iff.mp hread
  obtain ⟨_, rMaxOpen, hread⟩ := Option.bind_eq_some_iff.mp hread
  obtain ⟨_, rMaxIdle, hread⟩ := Option.bind_eq_some_iff.mp hread
  obtain ⟨_, rLifetime, hread⟩ := Option.bind_eq_some_iff.mp hread
  obtain ⟨_, rTlsMode, hread⟩ := Option.bind_eq_some_iff.mp hread
  obtain ⟨_, rTlsMethod, hread⟩ := Option.bind_eq_some_iff.mp hread
  obtain ⟨_, rCaCert, hread⟩ := Option.bind_eq_some_iff.mp hread
  obtain ⟨_, rClientCert, hread⟩ := Option.bind_eq_some_iff.mp hread
  obtain ⟨_, rClientKey, hread⟩ := Option.bind_eq_some_iff.mp hread
  cases hread
  refine ⟨named, hnamed, fun f => ?_, fun f => ?_⟩
  · cases f with
    | server => exact holdsText_iff.mpr ⟨_, hServer, rServer⟩
    | username => exact holdsText_iff.mpr ⟨_, hUsername, rUsername⟩
    | tlsMode => exact holdsText_iff.mpr ⟨_, hTlsMode, rTlsMode⟩
    | tlsMethod => exact holdsText_iff.mpr ⟨_, hTlsMethod, rTlsMethod⟩
    | tlsCaCertFile => exact holdsText_iff.mpr ⟨_, hCaCert, rCaCert⟩
    | tlsClientCertFile => exact holdsText_iff.mpr ⟨_, hClientCert, rClientCert⟩
    | tlsClientKeyFile => exact holdsText_iff.mpr ⟨_, hClientKey, rClientKey⟩
  · cases f with
    | port => exact holdsNumber_iff.mpr ⟨_, hPort, rPort⟩
    | timeout => exact holdsNumber_iff.mpr ⟨_, hTimeout, rTimeout⟩
    | queryTimeout => exact holdsNumber_iff.mpr ⟨_, hQuery, rQuery⟩
    | maxOpenConnections => exact holdsNumber_iff.mpr ⟨_, hMaxOpen, rMaxOpen⟩
    | maxIdleConnections => exact holdsNumber_iff.mpr ⟨_, hMaxIdle, rMaxIdle⟩
    | maxConnectionLifetime => exact holdsNumber_iff.mpr ⟨_, hLifetime, rLifetime⟩

/-- An instance that is stored is read. -/
theorem StoredIn.ofTree?_eq {members : List (List Json.StringUnit × Json.Tree)} {i : Instance}
    {named : List (String × Json.Tree)} (hi : i.StoredIn named)
    (hnamed : Json.namedMembers? members = some named) :
    ofTree? (.object members) = some i := by
  unfold ofTree? Json.Tree.fields?
  obtain ⟨server, hServer, rServer⟩ := holdsText_iff.mp (hi.texts .server)
  obtain ⟨port, hPort, rPort⟩ := holdsNumber_iff.mp (hi.numbers .port)
  obtain ⟨username, hUsername, rUsername⟩ := holdsText_iff.mp (hi.texts .username)
  obtain ⟨timeout, hTimeout, rTimeout⟩ := holdsNumber_iff.mp (hi.numbers .timeout)
  obtain ⟨query, hQuery, rQuery⟩ := holdsNumber_iff.mp (hi.numbers .queryTimeout)
  obtain ⟨maxOpen, hMaxOpen, rMaxOpen⟩ := holdsNumber_iff.mp (hi.numbers .maxOpenConnections)
  obtain ⟨maxIdle, hMaxIdle, rMaxIdle⟩ := holdsNumber_iff.mp (hi.numbers .maxIdleConnections)
  obtain ⟨lifetime, hLifetime, rLifetime⟩ := holdsNumber_iff.mp (hi.numbers .maxConnectionLifetime)
  obtain ⟨tlsMode, hTlsMode, rTlsMode⟩ := holdsText_iff.mp (hi.texts .tlsMode)
  obtain ⟨tlsMethod, hTlsMethod, rTlsMethod⟩ := holdsText_iff.mp (hi.texts .tlsMethod)
  obtain ⟨caCert, hCaCert, rCaCert⟩ := holdsText_iff.mp (hi.texts .tlsCaCertFile)
  obtain ⟨clientCert, hClientCert, rClientCert⟩ := holdsText_iff.mp (hi.texts .tlsClientCertFile)
  obtain ⟨clientKey, hClientKey, rClientKey⟩ := holdsText_iff.mp (hi.texts .tlsClientKeyFile)
  have hfields : List.Forall₂ (fun names t => Json.field? named names = some t) fieldNames
    [server, port, username, timeout, query, maxOpen, maxIdle, lifetime, tlsMode, tlsMethod,
    caCert, clientCert, clientKey] :=
    .cons hServer (.cons hPort (.cons hUsername (.cons hTimeout (.cons hQuery (.cons hMaxOpen
      (.cons hMaxIdle (.cons hLifetime (.cons hTlsMode (.cons hTlsMethod (.cons hCaCert (.cons
      hClientCert (.cons hClientKey .nil))))))))))))
  refine Option.bind_eq_some_iff.mpr
    ⟨_, Option.bind_eq_some_iff.mpr ⟨named, hnamed, mapM_of_forall₂ hfields⟩, ?_⟩
  simp only [rServer, rPort, rUsername, rTimeout, rQuery, rMaxOpen, rMaxIdle, rLifetime, rTlsMode,
    rTlsMethod, rCaCert, rClientCert, rClientKey]
  rfl

/-- **Reading an instance finds what is stored.** -/
theorem ofTree?_object_eq_some_iff {members : List (List Json.StringUnit × Json.Tree)}
    {i : Instance} :
    ofTree? (.object members) = some i ↔
      ∃ named, Json.namedMembers? members = some named ∧ i.StoredIn named := by
  constructor
  · exact storedIn_of_ofTree?
  · rintro ⟨named, hnamed, hi⟩
    exact hi.ofTree?_eq hnamed

/-! ## What loading sees -/

/-- The integer that is read from a field of numbers, if one is set. -/
def readInt (field : String) : Option HostNumber → Except SettingsError (Option Int)
  | none => .ok none
  | some h => h.toInt field

/-- The text that is read from a field, if one is set. The empty text is no word. -/
def TextField.read (s : Option String) : TextField → Option String
  | .tlsMode => s.filter (· ≠ "")
  | .tlsMethod => s.filter (· ≠ "")
  | _ => s

/-- Two instances are alike when the same is read from each of their fields. -/
structure Alike (i i' : Instance) : Prop where
  texts : ∀ f : TextField, f.read (f.get i) = f.read (f.get i')
  numbers : ∀ f : NumberField, readInt f.name (f.get i) = readInt f.name (f.get i')

/-- The loader sees of a number only what is read of it, so equal readings give equal fields or
equal complaints. -/
theorem int_congr {field : String} {h h' : Option HostNumber}
    (heq : readInt field h = readInt field h') : int field h = int field h' := by
  have hread : ∀ h : Option HostNumber,
      int field h = (readInt field h).map fun n => Int64.ofInt (n.getD 0) := by
    intro h
    cases h <;> rfl
  rw [hread, hread, heq]

theorem seconds_congr {field : String} {default : UInt64} {h h' : Option HostNumber}
    (heq : readInt field h = readInt field h') :
    seconds field default h = seconds field default h' := by
  have hunset : ∀ k : HostNumber, k.toInt field = .ok none →
      seconds field default (some k) = .ok default := by
    intro k hk
    rw [seconds, HostNumber.toNat, hk]
    rfl
  cases h with
  | none =>
    cases h' with
    | none => rfl
    | some k => exact (hunset k heq.symm).symm
  | some k =>
    cases h' with
    | none => exact hunset k heq
    | some k' =>
      have hsame : k.toInt field = k'.toInt field := heq
      rw [seconds, seconds, HostNumber.toNat, HostNumber.toNat, hsame]

/-- A mode that is left out and one that is the empty text are parsed alike. -/
theorem word_congr {α : Type} {parse : String → Except SettingsError α} {s s' : Option String}
    (heq : s.filter (· ≠ "") = s'.filter (· ≠ "")) : word parse s = word parse s' := by
  have hread : ∀ s : Option String, word parse s =
      (s.filter (· ≠ "")).elim (.ok none) fun w => (parse w).map some := by
    intro s
    cases s with
    | none => rfl
    | some w =>
      rw [word, Option.filter_some]
      by_cases hw : w = ""
      · simp [hw]
      · simp [hw]
  rw [hread, hread, heq]

/-- **Instances that are alike load the same.** Loading sees no more of a field of numbers than the
integer that is read from it. -/
theorem load_alike {i i' : Instance} (h : i.Alike i') (secret : String → Option String) :
    i.load secret = i'.load secret := by
  have hport : int "port" i.port = int "port" i'.port := int_congr (h.numbers .port)
  have htimeout : seconds "timeout" Settings.default.timeout i.timeout =
      seconds "timeout" Settings.default.timeout i'.timeout := seconds_congr (h.numbers .timeout)
  have hqueryTimeout : seconds "queryTimeout" Settings.default.queryTimeout i.queryTimeout =
      seconds "queryTimeout" Settings.default.queryTimeout i'.queryTimeout :=
    seconds_congr (h.numbers .queryTimeout)
  have hmaxOpen : int "maxOpenConnections" i.maxOpenConnections =
      int "maxOpenConnections" i'.maxOpenConnections := int_congr (h.numbers .maxOpenConnections)
  have hmaxIdle : int "maxIdleConnections" i.maxIdleConnections =
      int "maxIdleConnections" i'.maxIdleConnections := int_congr (h.numbers .maxIdleConnections)
  have hlifetime : int "maxConnectionLifetime" i.maxConnectionLifetime =
      int "maxConnectionLifetime" i'.maxConnectionLifetime :=
    int_congr (h.numbers .maxConnectionLifetime)
  have htlsMode : word TlsMode.parse i.tlsMode = word TlsMode.parse i'.tlsMode :=
    word_congr (h.texts .tlsMode)
  have htlsMethod : word TlsMethod.parse i.tlsMethod = word TlsMethod.parse i'.tlsMethod :=
    word_congr (h.texts .tlsMethod)
  have hserver : i.server = i'.server := h.texts .server
  have husername : i.username = i'.username := h.texts .username
  have hcaCert : i.tlsCaCertFile = i'.tlsCaCertFile := h.texts .tlsCaCertFile
  have hclientCert : i.tlsClientCertFile = i'.tlsClientCertFile := h.texts .tlsClientCertFile
  have hclientKey : i.tlsClientKeyFile = i'.tlsClientKeyFile := h.texts .tlsClientKeyFile
  unfold load settings
  rw [hport, htimeout, hqueryTimeout, hmaxOpen, hmaxIdle, hlifetime, htlsMode, htlsMethod, hserver,
    husername, hcaCert, hclientCert, hclientKey]

end Instance

namespace Settings

variable {json json' : String} {members members' : List (List Json.StringUnit × Json.Tree)}
  {refusal : String → String} {secret : String → Option String}

/-- The reading of a text goes by its tree, of which only the members matter. -/
theorem ofText?_of_parse (hparse : Json.Tree.parse? json = some (.object members)) :
    Instance.ofText? json = Instance.ofTree? (.object members) := by
  rw [Instance.ofText?, hparse]
  rfl

/-- An instance that is read is loaded, and the words of a refusal play no part. -/
theorem ofInstance_of_some (hparse : Json.Tree.parse? json = some (.object members)) {i : Instance}
    (hi : Instance.ofTree? (.object members) = some i) (refusal : String → String)
    (secret : String → Option String) : ofInstance refusal json secret = i.load secret := by
  rw [ofInstance, ofText?_of_parse hparse, hi]

/-- An instance that is not read is refused in words that depend on the whole text. -/
theorem ofInstance_of_none (hparse : Json.Tree.parse? json = some (.object members))
    (hi : Instance.ofTree? (.object members) = none) (refusal : String → String)
    (secret : String → Option String) :
    ofInstance refusal json secret = .error (.invalidJson (refusal json)) := by
  rw [ofInstance, ofText?_of_parse hparse, hi]

/-- Two texts load alike: both hold an instance, and the results are equal, errors included; or neither
does, and of each it is said what the reader says of that very text. The two sayings need not be
equal, since a reader may name the place of a fault. -/
inductive LoadAlike (refusal : String → String) (secret : String → Option String)
    (json json' : String) : Prop where
  | read {i i' : Instance} (holds : Instance.ofText? json = some i)
      (holds' : Instance.ofText? json' = some i')
      (same : ofInstance refusal json secret = ofInstance refusal json' secret)
  | refused (unread : Instance.ofText? json = none) (unread' : Instance.ofText? json' = none)
      (fails : ofInstance refusal json secret = .error (.invalidJson (refusal json)))
      (fails' : ofInstance refusal json' secret = .error (.invalidJson (refusal json')))

/-- Where an instance in one object always comes with one in the other that loads the same, and the
other way round, the texts of the objects load alike. -/
theorem loadAlike_of_objects (hparse : Json.Tree.parse? json = some (.object members))
    (hparse' : Json.Tree.parse? json' = some (.object members'))
    (h : ∀ i, Instance.ofTree? (.object members) = some i →
      ∃ i', Instance.ofTree? (.object members') = some i' ∧ i.load secret = i'.load secret)
    (h' : ∀ i', Instance.ofTree? (.object members') = some i' →
      ∃ i, Instance.ofTree? (.object members) = some i) :
    LoadAlike refusal secret json json' := by
  cases hi : Instance.ofTree? (.object members) with
  | some i =>
    obtain ⟨i', hi', hload⟩ := h i hi
    refine .read ((ofText?_of_parse hparse).trans hi) ((ofText?_of_parse hparse').trans hi') ?_
    rw [ofInstance_of_some hparse hi, ofInstance_of_some hparse' hi', hload]
  | none =>
    have hi' : Instance.ofTree? (.object members') = none := by
      rw [Option.eq_none_iff_forall_ne_some]
      intro i' hi'
      obtain ⟨i, hback⟩ := h' i' hi'
      rw [hi] at hback
      cases hback
    exact .refused ((ofText?_of_parse hparse).trans hi) ((ofText?_of_parse hparse').trans hi')
      (ofInstance_of_none hparse hi refusal secret) (ofInstance_of_none hparse' hi' refusal secret)

/-- Where one of the texts holds an instance, loading alike is loading the same. -/
theorem LoadAlike.eq_of_holds (h : LoadAlike refusal secret json json') {i : Instance}
    (hi : Instance.ofText? json = some i) :
    ofInstance refusal json secret = ofInstance refusal json' secret := by
  cases h with
  | read _ _ same => exact same
  | refused unread _ _ _ =>
    rw [hi] at unread
    cases unread

end Settings

/-! ## An instance with a limit -/

/-- A string as it is written where nothing has to be escaped. -/
def Json.plainUnits (s : String) : List Json.StringUnit :=
  s.toList.map .char

/-- An instance in JSON with a limit of connections. -/
def limitedTo (limit : String) : String :=
  "\x7b\"server\":\"s\",\"port\":1,\"username\":\"u\",\"maxOpenConnections\":" ++ limit ++ "\x7d"

/-- Its members before the limit. -/
def limitedMembers : List (List Json.StringUnit × Json.Tree) :=
  [(Json.plainUnits "server", .string (Json.plainUnits "s")),
   (Json.plainUnits "port", .number ⟨false, ['1'], [], none⟩),
   (Json.plainUnits "username", .string (Json.plainUnits "u"))]

/-- What is stored in it. -/
def limited (limit : HostNumber) : Instance where
  server := some "s"
  port := some (.number (Floating.ofInt .double 1))
  username := some "u"
  maxOpenConnections := some limit

/-- An object in JSON whose last member is a server that is no text. -/
def misserved (before : String) : String :=
  "\x7b" ++ before ++ "\"server\":5\x7d"

/-- What the reader of JSON says about such an object: it stops at the number, one column before the
closing brace. -/
def serverRefusal (json : String) : String :=
  "invalid type: integer `5`, expected a string at line 1 column " ++
    Text.natText (json.length - 1)

/-- Secrets with a password and nothing else. -/
def passwordAlone (name : String) : Option String :=
  if name = "password" then some "p" else none

end FrameSource
