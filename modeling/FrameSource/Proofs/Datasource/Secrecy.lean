import FrameSource.Datasource.ConnectionString
import FrameSource.Proofs.Datasource.Checks

/-!
# What settings keep to themselves

Settings hold four secrets: the password and the certificates that are not in files. Apart from
them, `withoutSecrets`, settings are what their JSON form says (`toJson_eq_iff`), and the diagnostic
form says no more than that (`describe_congr`).

Loading reads the secrets from where they are kept, and the fields from the instance. The secrets
reach no check but the one that there is a password, so two hosts with the same instance load
settings that are the same without their secrets, or make the same complaint
(`ofInstance_withoutSecrets`). A text that is no instance is refused before any secret is looked at.

**Neither errors nor the two forms depend on secrets** (`ofInstance_conceals`), although the
settings that are shown hold them. Other output may show them: `Proofs.Cli.Secrecy` looks at
connection strings.

Without a password the error says so. That there is one is therefore not concealed, and the laws ask
for one on both sides.
-/

namespace FrameSource

namespace Settings

/-- The same settings with other certificates held in them. -/
def hold (s : Settings) (c : Certificates) : Settings :=
  { s with tlsCaCert := c.root, tlsClientCert := c.client, tlsClientKey := c.key }

/-- The settings without what is secret in them. -/
def withoutSecrets (s : Settings) : Settings :=
  { s.hold ⟨none, none, none⟩ with password := "" }

/-- Settings that differ in secrets alone are the same but for their password and the certificates
that they hold. -/
theorem eq_of_withoutSecrets {s s' : Settings} (h : s.withoutSecrets = s'.withoutSecrets) :
    s' = { s.hold s'.heldCertificates with password := s'.password } := by
  cases s
  cases s'
  simp only [withoutSecrets, hold, heldCertificates, Settings.mk.injEq] at h ⊢
  simp only [h, and_self]

/-! ## What does not depend on secrets -/

variable {s s' : Settings}

/-- The diagnostic form shows no secret. -/
theorem describe_congr (h : s.withoutSecrets = s'.withoutSecrets) : s.describe = s'.describe := by
  calc s.describe = s.withoutSecrets.describe := rfl
    _ = s'.withoutSecrets.describe := by rw [h]
    _ = s'.describe := rfl

/-- An absent text is written as `null` and any other as itself, so nothing is confused. -/
theorem optionalJson_injective : Function.Injective optionalJson := by
  intro o o' h
  cases o <;> cases o' <;> simp_all [optionalJson]

theorem tlsMode_word_injective : Function.Injective TlsMode.word := by
  intro m m' h
  have hword := congrArg TlsMode.ofWord? h
  rw [TlsMode.ofWord?_word, TlsMode.ofWord?_word] at hword
  exact Option.some.inj hword

theorem tlsMethod_word_injective : Function.Injective TlsMethod.word := by
  intro m m' h
  have hword := congrArg TlsMethod.ofWord? h
  rw [TlsMethod.ofWord?_word, TlsMethod.ofWord?_word] at hword
  exact Option.some.inj hword

/-- The JSON form shows no secret, and everything else. -/
theorem toJson_eq_iff : s.toJson = s'.toJson ↔ s.withoutSecrets = s'.withoutSecrets := by
  constructor
  · intro h
    simp only [toJson, Json.Value.object.injEq, List.cons.injEq, Prod.mk.injEq, true_and, and_true,
      Json.Value.string.injEq, Json.Value.number.injEq, Json.Number.int.injEq, Int64.toInt_inj,
      Nat.cast_inj, UInt64.toNat_inj, optionalJson_injective.eq_iff,
      tlsMode_word_injective.eq_iff, (Option.map_injective tlsMethod_word_injective).eq_iff] at h
    simp only [withoutSecrets, hold, h]
  · intro h
    calc s.toJson = s.withoutSecrets.toJson := rfl
      _ = s'.withoutSecrets.toJson := by rw [h]
      _ = s'.toJson := rfl

/-- Whether settings with a password are complete does not depend on secrets. -/
theorem validate_congr (h : s.withoutSecrets = s'.withoutSecrets)
    (hs : s.password ≠ "") (hs' : s'.password ≠ "") : s.validate = s'.validate := by
  have hserver : s.server = s'.server := (congrArg Settings.server h :)
  have hport : s.port = s'.port := (congrArg Settings.port h :)
  have husername : s.username = s'.username := (congrArg Settings.username h :)
  unfold validate
  simp only [hserver, hport, husername, String.isEmpty_iff, hs, hs', if_false]

end Settings

/-! ## Loading with other secrets -/

/-- Two results that are the same through a map are the same error, or values that the map does not
tell apart. -/
theorem cases_of_map_eq {ε α β : Type} {x y : Except ε α} {g : α → β} (h : x.map g = y.map g) :
    (∃ e, x = .error e ∧ y = .error e) ∨ ∃ a b, x = .ok a ∧ y = .ok b ∧ g a = g b := by
  cases x with
  | error e =>
    cases y with
    | error e' =>
      cases h
      exact .inl ⟨e, rfl, rfl⟩
    | ok b => cases h
  | ok a =>
    cases y with
    | error e => cases h
    | ok b => exact .inr ⟨a, b, rfl, rfl, Except.ok.inj h⟩

/-- Two computations that agree up to a map after each first step agree up to it altogether. Here
the map forgets the secrets. -/
theorem map_bind_congr {ε α β γ : Type} {x : Except ε α} {f f' : α → Except ε β} {g : β → γ}
    (h : ∀ a, (f a).map g = (f' a).map g) : (x >>= f).map g = (x >>= f').map g := by
  cases x with
  | error e => rfl
  | ok a => exact h a

/-- A password is kept among the secrets. -/
def HasPassword (secret : String → Option String) : Prop :=
  ∃ password, secret "password" = some password ∧ password ≠ ""

/-- The secrets that settings take from where they are kept. -/
def keptSecrets (secret : String → Option String) :
    String × Option String × Option String × Option String :=
  ((secret "password").getD "", secret "tlsCACert", secret "tlsClientCert", secret "tlsClientKey")

namespace Instance

variable {secret secret' : String → Option String}

/-- The fields of an instance yield the same settings whatever the secrets. -/
theorem settings_withoutSecrets (i : Instance) (secret secret' : String → Option String) :
    (i.settings secret).map Settings.withoutSecrets =
      (i.settings secret').map Settings.withoutSecrets := by
  refine map_bind_congr fun port => ?_
  refine map_bind_congr fun timeout => ?_
  refine map_bind_congr fun queryTimeout => ?_
  refine map_bind_congr fun maxOpenConnections => ?_
  refine map_bind_congr fun maxIdleConnections => ?_
  refine map_bind_congr fun maxConnectionLifetime => ?_
  refine map_bind_congr fun tlsMode => ?_
  refine map_bind_congr fun tlsMethod => ?_
  rfl

/-- The secrets of loaded settings come from the store of secrets and from nowhere else. -/
theorem Yields.secrets_eq {i : Instance} {s : Settings} (h : i.Yields secret s) :
    s.secrets = keptSecrets secret := by
  simp only [Settings.secrets, keptSecrets, h.password, h.tlsCaCert, h.tlsClientCert,
    h.tlsClientKey]

theorem Yields.password_ne_empty {i : Instance} {s : Settings} (h : i.Yields secret s)
    (hsecret : HasPassword secret) : s.password ≠ "" := by
  obtain ⟨password, hpassword, hne⟩ := hsecret
  rw [h.password, hpassword]
  exact hne

/-- Loading under two stores that both have a password gives the same settings but for the secrets,
or the same error. -/
theorem load_withoutSecrets (i : Instance) (h : HasPassword secret) (h' : HasPassword secret') :
    (i.load secret).map Settings.withoutSecrets = (i.load secret').map Settings.withoutSecrets := by
  unfold load
  rcases cases_of_map_eq (i.settings_withoutSecrets secret secret') with
    ⟨e, hs, hs'⟩ | ⟨s, s', hs, hs', hsame⟩
  · rw [hs, hs']
  · have hpassword := ((checked_settings i secret).result s hs).password_ne_empty h
    have hpassword' := ((checked_settings i secret').result s' hs').password_ne_empty h'
    rw [hs, hs']
    show (s.validate >>= fun _ => .ok s).map _ = (s'.validate >>= fun _ => .ok s').map _
    rw [Settings.validate_congr hsame hpassword hpassword']
    exact map_bind_congr fun _ => congrArg Except.ok hsame

end Instance

namespace Settings

variable {secret secret' : String → Option String} {refusal : String → String}

/-- The law about loading, from the text of the instance on. A text that is refused is refused in
the same words, since the words depend on it alone. -/
theorem ofInstance_withoutSecrets (refusal : String → String) (json : String)
    (h : HasPassword secret) (h' : HasPassword secret') :
    (ofInstance refusal json secret).map withoutSecrets =
      (ofInstance refusal json secret').map withoutSecrets := by
  unfold ofInstance
  cases Instance.ofText? json with
  | none => rfl
  | some i => exact i.load_withoutSecrets h h'

/-- Loaded settings hold the secrets of the store, so they are only as secret as the texts made of
them. -/
theorem secrets_of_ofInstance {json : String} {s : Settings}
    (h : ofInstance refusal json secret = .ok s) : s.secrets = keptSecrets secret := by
  unfold ofInstance at h
  split at h
  · rename_i i _
    exact ((Instance.checked_load i secret).result s h).secrets_eq
  · cases h

/-- **Errors and the forms of settings do not depend on secrets.** Where a password is kept in both
places, a text is refused for the same reason with both, in the same words of the reader of JSON if
it cannot be read; or it loads as settings that hold the secrets of one and of the other and have the
same diagnostic form and the same JSON form. -/
theorem ofInstance_conceals (refusal : String → String) (json : String) (h : HasPassword secret)
    (h' : HasPassword secret') :
    (∃ e, ofInstance refusal json secret = .error e ∧
      ofInstance refusal json secret' = .error e) ∨
      ∃ s s', ofInstance refusal json secret = .ok s ∧ ofInstance refusal json secret' = .ok s' ∧
        s.secrets = keptSecrets secret ∧ s'.secrets = keptSecrets secret' ∧
        s.describe = s'.describe ∧ s.toJson.compact = s'.toJson.compact ∧
        s.toJson.indented = s'.toJson.indented := by
  rcases cases_of_map_eq (ofInstance_withoutSecrets refusal json h h') with
    herror | ⟨s, s', hs, hs', hsame⟩
  · exact .inl herror
  · have hjson := toJson_eq_iff.mpr hsame
    exact .inr ⟨s, s', hs, hs', secrets_of_ofInstance hs, secrets_of_ofInstance hs',
      describe_congr hsame, by rw [hjson], by rw [hjson]⟩

/-- A store with a password and all certificates. -/
def certified : String → Option String
  | "password" => some "hunter2"
  | "tlsCACert" => some "CA"
  | "tlsClientCert" => some "CERT"
  | "tlsClientKey" => some "KEY"
  | _ => none

/-- An instance that takes its certificates from where secrets are kept. -/
def securedText : String :=
  "\x7b\"server\":\"s\",\"port\":\"8812\",\"username\":\"u\",\"tlsMode\":\"require\"," ++
    "\"tlsConfigurationMethod\":\"file-content\"\x7d"

/-- Its members. -/
def securedMembers : List (List Json.StringUnit × Json.Tree) :=
  [(Json.plainUnits "server", .string (Json.plainUnits "s")),
   (Json.plainUnits "port", .string (Json.plainUnits "8812")),
   (Json.plainUnits "username", .string (Json.plainUnits "u")),
   (Json.plainUnits "tlsMode", .string (Json.plainUnits "require")),
   (Json.plainUnits "tlsConfigurationMethod", .string (Json.plainUnits "file-content"))]

/-- Settings with certificates look like settings without any. -/
theorem ofInstance_conceals_certificates :
    HasPassword passwordAlone ∧ HasPassword certified ∧
    ∃ s s', ofInstance serverRefusal securedText passwordAlone = .ok s ∧
      ofInstance serverRefusal securedText certified = .ok s' ∧
      s.secrets = ("p", none, none, none) ∧
      s'.secrets = ("hunter2", some "CA", some "CERT", some "KEY") ∧
      s.describe = s'.describe ∧ s.toJson.compact = s'.toJson.compact := by
  have h : HasPassword passwordAlone := ⟨"p", rfl, by decide⟩
  have h' : HasPassword certified := ⟨"hunter2", rfl, by decide⟩
  have hparse : Json.Tree.parse? securedText = some (.object securedMembers) := rfl
  have hread : Instance.ofTree? (.object securedMembers) = some
      { server := some "s", port := some (.text "8812"), username := some "u",
        tlsMode := some "require", tlsMethod := some "file-content" } := by
    decide +kernel
  have hloads : ∃ s, ofInstance serverRefusal securedText passwordAlone = .ok s := by
    rw [ofInstance_of_some hparse hread]
    exact ⟨_, rfl⟩
  obtain ⟨s, hs⟩ := hloads
  refine ⟨h, h', ?_⟩
  rcases ofInstance_conceals serverRefusal securedText h h' with
    ⟨e, he, _⟩ | ⟨s, s', hs, hs', hsecrets, hsecrets', hdescribe, hcompact, _⟩
  · rw [hs] at he
    cases he
  · exact ⟨s, s', hs, hs', hsecrets, hsecrets', hdescribe, hcompact⟩

end Settings

end FrameSource
