import FrameSource.Proofs.Datasource.Complaints
import FrameSource.Proofs.Datasource.Fields
import FrameSource.Proofs.Datasource.HostNumbers
import FrameSource.Proofs.Json.Numerals

/-!
# The checks of an instance

Loading an instance makes twelve checks in a fixed order. Each is described here by what passes it
and by its complaint about what does not. Loading succeeds exactly when all checks pass; otherwise
it ends with the complaint of the first check that does not; and the settings it ends with are
those that the fields and the secrets denote.

The proof has one computation for each field (`checked_int`, `checked_seconds`, `checked_word`), and
puts them together in the order in which loading makes them (`checked_load`).

The words in which the reader of JSON refuses a text are a parameter, of which nothing is used. That
a numeral is stored as the nearest double is established for whole and short ones alone; of longer
ones it does not hold.
-/

namespace FrameSource

namespace Instance

/-! ## What fields denote -/

/-- The integer that a field of numbers denotes, if it denotes any. -/
inductive Denotes : Option HostNumber → Option ℤ → Prop where
  | unset : Denotes none none
  | stored {h : HostNumber} {n : Option ℤ} (denotes : h.Denotes n) : Denotes (some h) n

/-- What a field of words names. The empty text counts as not set. -/
inductive Names {α : Type} (word : α → String) : Option String → Option α → Prop where
  | unset : Names word none none
  | empty : Names word (some "") none
  | known (a : α) : Names word (some (word a)) (some a)

/-- A field must denote a number. -/
def numberCheck (field : String) (h : Option HostNumber) : Check where
  passes := ∃ n, Denotes h n
  complaint e := ∃ stored, h = some stored ∧ e = .invalidNumber field stored.shown

/-- A field must denote a number that is not negative. -/
def secondsCheck (field : String) (h : Option HostNumber) : Check where
  passes := ∃ n, Denotes h n ∧ ∀ k ∈ n, 0 ≤ k
  complaint e :=
    (∃ k, Denotes h (some k) ∧ e = .invalidNumber field (Text.intText k)) ∨
      ((∀ n, ¬ Denotes h n) ∧ ∃ stored, h = some stored ∧ e = .invalidNumber field stored.shown)

/-- A field must name something that is known. -/
def wordCheck {α : Type} (word : α → String) (unknown : String → SettingsError)
    (s : Option String) : Check where
  passes := ∃ m, Names word s m
  complaint e := ∃ w, s = some w ∧ e = unknown w

/-- A text must be set, and not be empty. -/
def textCheck (missing : SettingsError) (s : Option String) : Check where
  passes := ∃ w, s = some w ∧ w ≠ ""
  complaint e := e = missing

/-- The port must be set, and be positive. -/
def portCheck (h : Option HostNumber) : Check where
  passes := ∃ k, Denotes h (some k) ∧ 0 < k
  complaint e := e = .invalidPort

/-- The checks of the fields, in their order. -/
def fieldChecks (i : Instance) : List Check :=
  [numberCheck "port" i.port,
   secondsCheck "timeout" i.timeout,
   secondsCheck "queryTimeout" i.queryTimeout,
   numberCheck "maxOpenConnections" i.maxOpenConnections,
   numberCheck "maxIdleConnections" i.maxIdleConnections,
   numberCheck "maxConnectionLifetime" i.maxConnectionLifetime,
   wordCheck TlsMode.word .invalidTlsMode i.tlsMode,
   wordCheck TlsMethod.word .invalidTlsMethod i.tlsMethod]

/-- The checks of what a connection cannot do without, in their order. -/
def completenessChecks (i : Instance) (secret : String → Option String) : List Check :=
  [textCheck .invalidServerName i.server,
   portCheck i.port,
   textCheck .invalidUserName i.username,
   textCheck .invalidPassword (secret "password")]

/-- All checks of an instance. -/
def checks (i : Instance) (secret : String → Option String) : List Check :=
  i.fieldChecks ++ i.completenessChecks secret

/-- The settings that an instance denotes, with its secrets. Fields that are not set have their
defaults. -/
structure Yields (i : Instance) (secret : String → Option String) (s : Settings) : Prop where
  server : s.server = i.server.getD ""
  port : ∃ n, Denotes i.port n ∧ s.port.toInt = n.getD 0
  username : s.username = i.username.getD ""
  timeout : ∃ n, Denotes i.timeout n ∧ s.timeout.toNat = n.getD 10
  queryTimeout : ∃ n, Denotes i.queryTimeout n ∧ s.queryTimeout.toNat = n.getD 60
  maxOpenConnections : ∃ n, Denotes i.maxOpenConnections n ∧ s.maxOpenConnections.toInt = n.getD 0
  maxIdleConnections : ∃ n, Denotes i.maxIdleConnections n ∧ s.maxIdleConnections.toInt = n.getD 0
  maxConnectionLifetime :
    ∃ n, Denotes i.maxConnectionLifetime n ∧ s.maxConnectionLifetime.toInt = n.getD 0
  tlsMode : ∃ m, Names TlsMode.word i.tlsMode m ∧ s.tlsMode = m.getD .disable
  tlsMethod : Names TlsMethod.word i.tlsMethod s.tlsMethod
  tlsCaCertFile : s.tlsCaCertFile = i.tlsCaCertFile
  tlsClientCertFile : s.tlsClientCertFile = i.tlsClientCertFile
  tlsClientKeyFile : s.tlsClientKeyFile = i.tlsClientKeyFile
  password : s.password = (secret "password").getD ""
  tlsCaCert : s.tlsCaCert = secret "tlsCACert"
  tlsClientCert : s.tlsClientCert = secret "tlsClientCert"
  tlsClientKey : s.tlsClientKey = secret "tlsClientKey"

/-! ## The checks of one field -/

/-- A number of the host denotes at most one integer, or at most the absence of one. -/
theorem Denotes.unique {h : Option HostNumber} {n n' : Option ℤ} (hd : Denotes h n)
    (hd' : Denotes h n') : n = n' := by
  cases hd with
  | unset =>
    cases hd'
    rfl
  | stored hd =>
    cases hd' with
    | stored hd' => exact hd.unique hd'

theorem denotes_some_iff {h : HostNumber} {n : Option ℤ} : Denotes (some h) n ↔ h.Denotes n := by
  constructor
  · intro hd
    cases hd with
    | stored hd => exact hd
  · exact .stored

/-- The port, the two pool sizes and the lifetime of a connection are checked alike. Where nothing
is set they are zero, whether the number is left out or a blank text. -/
theorem checked_int (field : String) (h : Option HostNumber) :
    Checked [numberCheck field h] (int field h)
      fun a => ∃ n, Denotes h n ∧ a.toInt = n.getD 0 := by
  apply Checked.single
  · rintro ⟨n, hn⟩
    cases hn with
    | unset => exact ⟨0, rfl, none, .unset, rfl⟩
    | stored hd =>
      refine ⟨Int64.ofInt (n.getD 0), ?_, n, .stored hd, ?_⟩
      · rw [int, HostNumber.toInt_of_denotes hd]
        rfl
      · cases n with
        | none => rfl
        | some k => exact Int64.toInt_ofInt_of_le hd.fits.1 hd.fits.2
  · intro hnot
    cases h with
    | none => exact absurd ⟨none, .unset⟩ hnot
    | some h =>
      have hnone : ∀ n, ¬ h.Denotes n := fun n hn => hnot ⟨n, .stored hn⟩
      refine ⟨.invalidNumber field h.shown, ?_, ?_⟩
      · rw [int, HostNumber.toInt_eq_error_iff.mpr ⟨hnone, rfl⟩]
        rfl
      · intro e
        constructor
        · rintro ⟨stored, hstored, rfl⟩
          cases hstored
          rfl
        · rintro rfl
          exact ⟨h, rfl, rfl⟩

/-- The range of a count of seconds need not be checked from above: whatever the host denotes fits
into the machine's signed words. -/
theorem seconds_of_nonneg (field : String) (default : UInt64) {h : HostNumber} {n : Option ℤ}
    (hd : h.Denotes n) (hn : ∀ k ∈ n, 0 ≤ k) :
    ∃ a, seconds field default (some h) = .ok a ∧ a.toNat = n.getD (default.toNat : ℤ) := by
  rw [seconds, HostNumber.toNat_eq hd]
  cases n with
  | none => exact ⟨default, rfl, rfl⟩
  | some k =>
    have hk := hn k rfl
    have hfits := hd.fits
    have hsize : k.toNat < UInt64.size := by
      show k.toNat < 2 ^ 64
      omega
    refine ⟨UInt64.ofNat k.toNat, ?_, ?_⟩
    · simp only [if_neg (not_lt.mpr hk)]
      rfl
    · show ((UInt64.ofNat k.toNat).toNat : ℤ) = k
      rw [UInt64.toNat_ofNat', Nat.mod_eq_of_lt hsize, Int.toNat_of_nonneg hk]

/-- A negative count of seconds is a complaint of its own, which shows the number as an integer and
not as the host has written it. -/
theorem seconds_of_neg (field : String) (default : UInt64) {h : HostNumber} {k : ℤ}
    (hd : h.Denotes (some k)) (hk : k < 0) :
    seconds field default (some h) = .error (.invalidNumber field (Text.intText k)) ∧
      ∀ e, (secondsCheck field (some h)).complaint e ↔
        e = .invalidNumber field (Text.intText k) := by
  constructor
  · rw [seconds, HostNumber.toNat_eq hd]
    simp only [if_pos hk]
    rfl
  · intro e
    constructor
    · rintro (⟨k', hk', rfl⟩ | ⟨hnone, _⟩)
      · cases hk'.unique (.stored hd)
        rfl
      · exact absurd (.stored hd) (hnone (some k))
    · rintro rfl
      exact Or.inl ⟨k, .stored hd, rfl⟩

/-- What is no number is complained about before its sign is looked at, and shown as written. -/
theorem seconds_of_not_denotes (field : String) (default : UInt64) {h : HostNumber}
    (hnone : ∀ n, ¬ h.Denotes n) :
    seconds field default (some h) = .error (.invalidNumber field h.shown) ∧
      ∀ e, (secondsCheck field (some h)).complaint e ↔ e = .invalidNumber field h.shown := by
  have hnone' : ∀ n, ¬ Denotes (some h) n := fun n hn => hnone n (denotes_some_iff.mp hn)
  constructor
  · rw [seconds, HostNumber.toNat_of_not_denotes hnone]
    rfl
  · intro e
    constructor
    · rintro (⟨k, hk, _⟩ | ⟨_, stored, hstored, rfl⟩)
      · exact absurd hk (hnone' _)
      · cases hstored
        rfl
    · rintro rfl
      exact Or.inr ⟨hnone', h, rfl, rfl⟩

/-- Both timeouts are checked alike, each with its own default for an absent number. -/
theorem checked_seconds (field : String) (default : UInt64) (h : Option HostNumber) :
    Checked [secondsCheck field h] (seconds field default h)
      fun a => ∃ n, Denotes h n ∧ a.toNat = n.getD (default.toNat : ℤ) := by
  apply Checked.single
  · rintro ⟨n, hn, hnonneg⟩
    cases hn with
    | unset => exact ⟨default, rfl, none, .unset, rfl⟩
    | stored hd =>
      obtain ⟨a, ha, hvalue⟩ := seconds_of_nonneg field default hd hnonneg
      exact ⟨a, ha, n, .stored hd, hvalue⟩
  · intro hnot
    cases h with
    | none => exact absurd ⟨none, .unset, nofun⟩ hnot
    | some h =>
      by_cases hdenotes : ∃ n, h.Denotes n
      · obtain ⟨n, hd⟩ := hdenotes
        have hneg : ∃ k ∈ n, k < 0 := by
          by_contra hall
          push Not at hall
          exact hnot ⟨n, .stored hd, hall⟩
        obtain ⟨k, hn, hk⟩ := hneg
        cases Option.mem_def.mp hn
        exact ⟨_, seconds_of_neg field default hd hk⟩
      · exact ⟨_, seconds_of_not_denotes field default (not_exists.mp hdenotes)⟩

/-- A field of words, for any way of reading words that knows exactly the words of its values. -/
theorem checked_word {α : Type} {word : α → String} {unknown : String → SettingsError}
    {parse : String → Except SettingsError α} (hempty : ∀ a, word a ≠ "")
    (hknown : ∀ a, parse (word a) = .ok a)
    (hunknown : ∀ w, (∀ a, w ≠ word a) → parse w = .error (unknown w)) (s : Option String) :
    Checked [wordCheck word unknown s] (Instance.word parse s) (Names word s) := by
  apply Checked.single
  · rintro ⟨m, hm⟩
    refine ⟨m, ?_, hm⟩
    cases hm with
    | unset => rfl
    | empty => rfl
    | known a =>
      have hnonempty : (word a).isEmpty = false := by
        rw [← Bool.not_eq_true, String.isEmpty_iff]
        exact hempty a
      simp only [Instance.word, hnonempty, Bool.false_eq_true, if_false, hknown]
      rfl
  · intro hnot
    cases s with
    | none => exact absurd ⟨none, .unset⟩ hnot
    | some w =>
      have hnonempty : w.isEmpty = false := by
        rw [← Bool.not_eq_true, String.isEmpty_iff]
        rintro rfl
        exact hnot ⟨none, .empty⟩
      have hword : ∀ a, w ≠ word a := by
        rintro a rfl
        exact hnot ⟨some a, .known a⟩
      refine ⟨unknown w, ?_, ?_⟩
      · simp only [Instance.word, hnonempty, Bool.false_eq_true, if_false, hunknown w hword]
        rfl
      · intro e
        constructor
        · rintro ⟨_, ⟨⟩, rfl⟩
          rfl
        · rintro rfl
          exact ⟨w, rfl, rfl⟩

theorem checked_tlsMode (s : Option String) :
    Checked [wordCheck TlsMode.word .invalidTlsMode s] (Instance.word TlsMode.parse s)
      (Names TlsMode.word s) := by
  apply checked_word TlsMode.word_ne_empty
  · intro m
    rw [TlsMode.parse, TlsMode.ofWord?_word]
  · intro w hw
    have hnone : TlsMode.ofWord? w = none := by
      unfold TlsMode.ofWord?
      have hdisable := hw .disable
      have hrequire := hw .require
      have hverifyCa := hw .verifyCa
      have hverifyFull := hw .verifyFull
      simp_all [TlsMode.word]
    rw [TlsMode.parse, hnone]

theorem checked_tlsMethod (s : Option String) :
    Checked [wordCheck TlsMethod.word .invalidTlsMethod s] (Instance.word TlsMethod.parse s)
      (Names TlsMethod.word s) := by
  apply checked_word TlsMethod.word_ne_empty
  · intro m
    rw [TlsMethod.parse, TlsMethod.ofWord?_word]
  · intro w hw
    have hnone : TlsMethod.ofWord? w = none := by
      unfold TlsMethod.ofWord?
      have hfileContent := hw .fileContent
      have hfilePath := hw .filePath
      simp_all [TlsMethod.word]
    rw [TlsMethod.parse, hnone]

/-! ## All checks -/

/-- The checks of the fields in the order in which they are made, and what the settings are if all
of them pass. -/
theorem checked_settings (i : Instance) (secret : String → Option String) :
    Checked i.fieldChecks (i.settings secret) (i.Yields secret) := by
  unfold fieldChecks
  refine (checked_int "port" i.port).next fun port hport => ?_
  refine (checked_seconds "timeout" _ i.timeout).next fun timeout htimeout => ?_
  refine (checked_seconds "queryTimeout" _ i.queryTimeout).next
    fun queryTimeout hqueryTimeout => ?_
  refine (checked_int "maxOpenConnections" i.maxOpenConnections).next
    fun maxOpenConnections hmaxOpen => ?_
  refine (checked_int "maxIdleConnections" i.maxIdleConnections).next
    fun maxIdleConnections hmaxIdle => ?_
  refine (checked_int "maxConnectionLifetime" i.maxConnectionLifetime).next
    fun maxConnectionLifetime hlifetime => ?_
  refine (checked_tlsMode i.tlsMode).next fun tlsMode htlsMode => ?_
  refine (checked_tlsMethod i.tlsMethod).next fun tlsMethod htlsMethod => ?_
  apply Checked.pure
  exact {
    server := rfl
    port := hport
    username := rfl
    timeout := htimeout
    queryTimeout := hqueryTimeout
    maxOpenConnections := hmaxOpen
    maxIdleConnections := hmaxIdle
    maxConnectionLifetime := hlifetime
    tlsMode := ⟨tlsMode, htlsMode, rfl⟩
    tlsMethod := htlsMethod
    tlsCaCertFile := rfl
    tlsClientCertFile := rfl
    tlsClientKeyFile := rfl
    password := rfl
    tlsCaCert := rfl
    tlsClientCert := rfl
    tlsClientKey := rfl }

/-- An absent text and an empty one are the same to the completeness checks. -/
theorem isEmpty_getD_iff {s : Option String} :
    (s.getD "").isEmpty = true ↔ ¬ ∃ w, s = some w ∧ w ≠ "" := by
  cases s with
  | none => simp
  | some w => simp

/-- Completeness is checked on the settings, but may be told by the instance that they are made
from. -/
theorem checked_validate {i : Instance} {secret : String → Option String} {s : Settings}
    (hs : i.Yields secret s) :
    Checked (i.completenessChecks secret) s.validate fun _ => True := by
  have hport : s.port.toInt ≤ 0 ↔ ¬ (portCheck i.port).passes := by
    obtain ⟨n, hn, hvalue⟩ := hs.port
    rw [hvalue]
    constructor
    · rintro hle ⟨k, hk, hpos⟩
      cases hn.unique hk
      exact absurd hpos (not_lt.mpr hle)
    · intro hnot
      cases n with
      | none => exact le_refl 0
      | some k =>
        by_contra hpos
        exact hnot ⟨k, hn, not_le.mp hpos⟩
  apply Checked.guard (hs.server ▸ isEmpty_getD_iff) fun _ => Iff.rfl
  apply Checked.guard hport fun _ => Iff.rfl
  apply Checked.guard (hs.username ▸ isEmpty_getD_iff) fun _ => Iff.rfl
  apply Checked.guard (hs.password ▸ isEmpty_getD_iff) fun _ => Iff.rfl
  exact Checked.pure trivial

/-- All checks of loading in one list. The first that fails gives the error, and if none does the
fields are told by `Yields`. -/
theorem checked_load (i : Instance) (secret : String → Option String) :
    Checked (i.checks secret) (i.load secret) (i.Yields secret) := by
  refine (checked_settings i secret).bind fun s hs => ?_
  have hvalidate : Checked (i.completenessChecks secret ++ []) (s.validate >>= fun _ => .ok s)
      (i.Yields secret) := (checked_validate hs).bind fun _ _ => Checked.pure hs
  rwa [List.append_nil] at hvalidate

/-- A numeral that is exactly an integer, or short enough, is stored as the nearest double. Of other
numerals this is not claimed, and the reader of JSON does not always meet it. -/
theorem StoredIn.exists_isNearest {i : Instance} {named : List (String × Json.Tree)}
    (hi : i.StoredIn named) {f : NumberField} {n : Json.Numeral}
    (h : Json.Holds named [f.name] (some (.number n))) (hn : n.IsWhole ∨ n.IsShort) :
    ∃ x, f.get i = some (.number x) ∧ x.IsNearest n.value := by
  obtain ⟨x, hx, hnear⟩ := Json.Numeral.exists_isNearest hn
  refine ⟨x, ?_, hnear⟩
  obtain ⟨t, ht, hread⟩ := Json.holdsNumber_iff.mp (hi.numbers f)
  rw [Json.field?_eq_some_iff.mpr h] at ht
  cases ht
  obtain ⟨t', ht', hread'⟩ := Json.holdsNumber_iff.mp (.number h hx)
  rw [Json.field?_eq_some_iff.mpr h] at ht'
  cases ht'
  exact Option.some.inj (hread.symm.trans hread')

end Instance

/-- **The checks of an instance.** An object that stores an instance is loaded exactly when the
instance passes all checks; otherwise the complaint is that of the first check that it does not pass;
and the settings are the ones that the instance denotes with its secrets. A number of the object
that is whole within 64 bits or short stands in the instance as the double nearest to it. An object
that stores no instance is refused, in the words of the reader of JSON. -/
theorem Settings.ofInstance_checks {json : String} (refusal : String → String)
    (secret : String → Option String)
    {members : List (List Json.StringUnit × Json.Tree)} {named : List (String × Json.Tree)}
    (hparse : Json.Tree.parse? json = some (.object members))
    (hnamed : Json.namedMembers? members = some named) :
    (∀ i : Instance, i.StoredIn named →
      ((∃ s, ofInstance refusal json secret = .ok s) ↔ ∀ c ∈ i.checks secret, c.passes) ∧
      (∀ e, ofInstance refusal json secret = .error e ↔ FirstComplaint (i.checks secret) e) ∧
      (∀ s, ofInstance refusal json secret = .ok s → i.Yields secret s) ∧
      ∀ (f : Instance.NumberField) (n : Json.Numeral),
        Json.Holds named [f.name] (some (.number n)) → n.IsWhole ∨ n.IsShort →
          ∃ x, f.get i = some (.number x) ∧ x.IsNearest n.value) ∧
    ((¬ ∃ i : Instance, i.StoredIn named) →
      ofInstance refusal json secret = .error (.invalidJson (refusal json))) := by
  constructor
  · intro i hi
    have hload := ofInstance_of_some hparse
      (Instance.ofTree?_object_eq_some_iff.mpr ⟨named, hnamed, hi⟩) refusal secret
    have hchecked := Instance.checked_load i secret
    rw [hload]
    exact ⟨hchecked.ok, hchecked.error, hchecked.result, fun f n h hn => hi.exists_isNearest h hn⟩
  · intro hnone
    have hrefused : Instance.ofTree? (.object members) = none := by
      rw [Option.eq_none_iff_forall_ne_some]
      intro i hi
      obtain ⟨named', hnamed', hstored⟩ := Instance.ofTree?_object_eq_some_iff.mp hi
      rw [hnamed] at hnamed'
      cases hnamed'
      exact hnone ⟨i, hstored⟩
    exact ofInstance_of_none hparse hrefused refusal secret

/-- An instance in JSON with numbers in many forms. -/
def variedText : String :=
  "\x7b\"server\":\"s\",\"port\":88.12e2,\"username\":\"u\",\"timeout\":\"\\u2003+07 \"," ++
    "\"queryTimeout\":null,\"maxIdleConnections\":-3\x7d"

/-- The port as it is written. -/
def variedPort : Json.Numeral :=
  ⟨false, ['8', '8'], ['1', '2'], some (false, ['2'])⟩

/-- Its members. -/
def variedMembers : List (String × Json.Tree) :=
  [("server", .string (Json.plainUnits "s")),
   ("port", .number variedPort),
   ("username", .string (Json.plainUnits "u")),
   ("timeout", .string (.code 0x2003 :: Json.plainUnits "+07 ")),
   ("queryTimeout", .null),
   ("maxIdleConnections", .number ⟨true, ['3'], [], none⟩)]

/-- What is stored in it. -/
def varied : Instance where
  server := some "s"
  port := some (.number (Floating.ofInt .double 8812))
  username := some "u"
  timeout := some (.text "\u2003+07 ")
  maxIdleConnections := some (.number (Floating.ofInt .double (-3)))

/-- The numbers pass in every form; without a password the last check complains. -/
theorem Settings.ofInstance_checks_varied :
    Json.Tree.parse? variedText =
      some (.object (variedMembers.map fun m => (Json.plainUnits m.1, m.2))) ∧
    Json.namedMembers? (variedMembers.map fun m => (Json.plainUnits m.1, m.2)) =
      some variedMembers ∧
    varied.StoredIn variedMembers ∧
    (∀ c ∈ varied.checks passwordAlone, c.passes) ∧
    (∃ s, ofInstance serverRefusal variedText passwordAlone = .ok s ∧
      varied.Yields passwordAlone s) ∧
    FirstComplaint (varied.checks fun _ => none) .invalidPassword ∧
    ∃ x, varied.port = some (.number x) ∧ x.IsNearest variedPort.value := by
  have hparse : Json.Tree.parse? variedText =
      some (.object (variedMembers.map fun m => (Json.plainUnits m.1, m.2))) := by cbv
  have hnamed : Json.namedMembers? (variedMembers.map fun m => (Json.plainUnits m.1, m.2)) =
      some variedMembers := rfl
  have hread : Instance.ofTree?
      (.object (variedMembers.map fun m => (Json.plainUnits m.1, m.2))) = some varied := by
    decide +kernel
  have hstored : varied.StoredIn variedMembers := by
    obtain ⟨named, hnamed', hi⟩ := Instance.ofTree?_object_eq_some_iff.mp hread
    rw [hnamed] at hnamed'
    cases hnamed'
    exact hi
  have hloads : ∃ s, ofInstance serverRefusal variedText passwordAlone = .ok s := by
    rw [ofInstance_of_some hparse hread]
    exact ⟨_, rfl⟩
  have hrefused :
      ofInstance serverRefusal variedText (fun _ => none) = .error .invalidPassword := by
    rw [ofInstance_of_some hparse hread]
    rfl
  obtain ⟨hok, _, hyields, hnearest⟩ :=
    (ofInstance_checks serverRefusal passwordAlone hparse hnamed).1 varied hstored
  obtain ⟨_, hcomplains, _, _⟩ :=
    (ofInstance_checks serverRefusal (fun _ => none) hparse hnamed).1 varied hstored
  obtain ⟨s, hs⟩ := hloads
  refine ⟨hparse, hnamed, hstored, hok.mp ⟨s, hs⟩, ⟨s, hs, hyields s hs⟩,
    (hcomplains _).mp hrefused, ?_⟩
  have hport : Json.Holds variedMembers ["port"] (some (.number variedPort)) :=
    Json.field?_eq_some_iff.mp rfl
  exact hnearest .port variedPort hport (Or.inr ⟨by decide, by decide, by decide⟩)

/-- A number with too many digits for a double is rounded more than once, and loads as a neighbour of
the nearest double. -/
theorem Settings.ofInstance_neighbour :
    ∃ (n : Json.Numeral) (s : Settings),
      Json.Tree.parse? (limitedTo "9007199254740992.9") = some (.object
        (limitedMembers ++ [(Json.plainUnits "maxOpenConnections", .number n)])) ∧
      ofInstance serverRefusal (limitedTo "9007199254740992.9") passwordAlone = .ok s ∧
      s.maxOpenConnections.toInt = 9007199254740994 ∧
      n.value = 9007199254740992.9 ∧
      ∀ x : Double, x.IsNearest n.value → x.value ≠ 9007199254740994 := by
  let n : Json.Numeral := ⟨false, "9007199254740992".toList, ['9'], none⟩
  let s : Settings :=
    { server := "s", port := 1, username := "u", password := "p",
      maxOpenConnections := 9007199254740994 }
  have hvalue : n.value = 9007199254740992.9 := by
    have hdigits : n.digits = 90071992547409929 := by decide +kernel
    have hpower : n.power = -1 := rfl
    have hsigned : n.value = n.digits * 10 ^ n.power := rfl
    rw [hsigned, hdigits, hpower]
    norm_num
  have hparse : Json.Tree.parse? (limitedTo "9007199254740992.9") = some (.object
      (limitedMembers ++ [(Json.plainUnits "maxOpenConnections", .number n)])) := rfl
  have hread : Instance.ofTree? (.object
      (limitedMembers ++ [(Json.plainUnits "maxOpenConnections", .number n)])) =
        some (limited (.number (.finite false 4503599627370497 1))) := by
    decide +kernel
  refine ⟨n, s, hparse, ?_, rfl, hvalue, ?_⟩
  · rw [ofInstance_of_some hparse hread]
    rfl
  · intro x hx heq
    obtain ⟨y, hy, hyValue⟩ :=
      Floating.exists_value_eq (n := 1) (by decide) (show 53 ≤ 971 by decide)
    have hnear := hx.nearest y hy
    rw [hvalue, heq, hyValue] at hnear
    norm_num [abs_le] at hnear

end FrameSource
