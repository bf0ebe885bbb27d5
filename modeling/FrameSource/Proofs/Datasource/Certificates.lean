import FrameSource.Proofs.Datasource.Entries

/-!
# Which certificates count

Settings may hold certificates and name files of certificates at the same time. A connection that is
secured takes all of its certificates from the source of its method, and looks at no other; one that
is not secured, or has no method, looks at none (`Settings.selectedCertificates`).

A client's certificate and its key go together, and a text that is empty is as good as none. With one
of them alone no connection string is made, and that is the only reason for which none is made
(`exists_connectionString_iff`).

**Certificates are taken from one source** (`connectionString_selects`): only half a pair in the
source of the method is refused, and no certificate of the other source has any influence.

Certificates are texts here. Whether a text is a certificate, whether a file is there, and whether a
key belongs to a certificate is left to whoever opens the connection.
-/

namespace FrameSource

/-! ## Certificates that are given -/

/-- A text is given. The empty text is not. -/
def IsGiven (s : Option String) : Prop :=
  ∃ text, s = some text ∧ text ≠ ""

/-- The empty text counts as no certificate at all. -/
theorem isSome_given_iff {s : Option String} : (given s).isSome = true ↔ IsGiven s := by
  unfold given IsGiven
  cases s with
  | none => simp
  | some text => simp [Option.filter_some]

namespace Certificates

variable {c c' : Certificates}

/-- The certificates without the empty ones. -/
def present (c : Certificates) : Certificates :=
  ⟨given c.root, given c.client, given c.key⟩

/-- A client's certificate and key are both given, or neither is. -/
def Paired (c : Certificates) : Prop :=
  (given c.client).isSome = (given c.key).isSome

/-- Of a client's certificate and key only one is given. -/
def Halved (c : Certificates) : Prop :=
  (IsGiven c.client ∧ ¬ IsGiven c.key) ∨ (¬ IsGiven c.client ∧ IsGiven c.key)

/-- A client certificate and its key are there together or not at all; the third case is that
exactly one of them is. -/
theorem not_paired_iff : ¬ c.Paired ↔ c.Halved := by
  rw [Paired, Halved, ← isSome_given_iff, ← isSome_given_iff]
  cases (given c.client).isSome <;> cases (given c.key).isSome <;> simp

/-- What is written depends on the certificates that are present, not on how the absent ones are
absent. -/
theorem parameters_congr (h : c.present = c'.present) : c.parameters = c'.parameters := by
  obtain ⟨hroot, hclient, hkey⟩ := Certificates.mk.inj h
  unfold parameters
  rw [hroot, hclient, hkey]

/-- A certificate without its key, or a key without its certificate, makes no parameters. -/
theorem exists_parameters_iff : (∃ ps, c.parameters = .ok ps) ↔ c.Paired := by
  unfold parameters Paired
  cases given c.client <;> cases given c.key <;> simp

/-- Half of a client certificate is refused, also where a certificate of an authority is there. -/
theorem parameters_of_not_paired (h : ¬ c.Paired) :
    c.parameters = .error .incompleteClientCertificate := by
  cases hps : c.parameters with
  | ok ps => exact absurd (exists_parameters_iff.mp ⟨ps, hps⟩) h
  | error e =>
    cases e
    rfl

/-- What is given can be looked up among the entries. -/
theorem lookup_entries (h : c.Paired) :
    c.entries.lookup "sslrootcert" = given c.root ∧
      c.entries.lookup "sslcert" = given c.client ∧ c.entries.lookup "sslkey" = given c.key := by
  unfold Paired at h
  unfold entries
  cases hclient : given c.client <;> cases hkey : given c.key <;> rw [hclient, hkey] at h
  · cases given c.root <;> exact ⟨rfl, rfl, rfl⟩
  · cases h
  · cases h
  · cases given c.root <;> exact ⟨rfl, rfl, rfl⟩

/-- The entries determine the certificates that are present. Without pairing they would not: a
client certificate alone is not written. -/
theorem present_of_entries_eq (h : c.Paired) (h' : c'.Paired) (heq : c.entries = c'.entries) :
    c.present = c'.present := by
  obtain ⟨hroot, hclient, hkey⟩ := lookup_entries h
  obtain ⟨hroot', hclient', hkey'⟩ := lookup_entries h'
  rw [present, present, ← hroot, ← hclient, ← hkey, heq, hroot', hclient', hkey']

end Certificates

namespace Settings

/-! ## The source of a method -/

/-- The same settings with other certificates in both sources. -/
def withCertificates (s : Settings) (held files : Certificates) : Settings :=
  { s with
    tlsCaCert := held.root, tlsClientCert := held.client, tlsClientKey := held.key
    tlsCaCertFile := files.root, tlsClientCertFile := files.client
    tlsClientKeyFile := files.key }

variable {s : Settings} {application : String}

theorem selectedCertificates_of_not_secured (h : s.tlsMode = .disable ∨ s.tlsMethod = none) :
    s.selectedCertificates = ⟨none, none, none⟩ := by
  unfold selectedCertificates
  rcases h with hmode | hmethod
  · rw [if_pos hmode]
  · rw [hmethod]
    exact ite_self _

/-- A secured connection selects by its method, and by nothing else in the settings. -/
theorem selectedCertificates_of_secured {method : TlsMethod} (hmode : s.tlsMode ≠ .disable)
    (hmethod : s.tlsMethod = some method) :
    s.selectedCertificates = s.certificatesFrom method := by
  unfold selectedCertificates
  rw [if_neg hmode, hmethod]

/-- A connection string is made unless half a pair counts. -/
theorem exists_connectionString_iff :
    (∃ text, s.connectionString application = .ok text) ↔ s.selectedCertificates.Paired := by
  rw [← Certificates.exists_parameters_iff]
  unfold connectionString parameters
  rw [tlsParameters_eq]
  cases s.selectedCertificates.parameters with
  | error e => exact ⟨nofun, nofun⟩
  | ok ps => exact iff_of_true ⟨_, rfl⟩ ⟨ps, rfl⟩

/-- Nothing is half a pair unless it is in the source of a secured connection's method. -/
theorem halved_selectedCertificates_iff :
    s.selectedCertificates.Halved ↔
      s.tlsMode ≠ .disable ∧
        ∃ method, s.tlsMethod = some method ∧ (s.certificatesFrom method).Halved := by
  have hnone : ¬ Certificates.Halved ⟨none, none, none⟩ :=
    fun h => Certificates.not_paired_iff.mpr h rfl
  constructor
  · intro h
    have hmode : s.tlsMode ≠ .disable := by
      intro hmode
      rw [selectedCertificates_of_not_secured (Or.inl hmode)] at h
      exact hnone h
    refine ⟨hmode, ?_⟩
    cases hmethod : s.tlsMethod with
    | none =>
      rw [selectedCertificates_of_not_secured (Or.inr hmethod)] at h
      exact absurd h hnone
    | some method =>
      rw [selectedCertificates_of_secured hmode hmethod] at h
      exact ⟨method, rfl, h⟩
  · rintro ⟨hmode, method, hmethod, h⟩
    rw [selectedCertificates_of_secured hmode hmethod]
    exact h

/-! ## The other source -/

/-- Certificates that do not change the source of a secured connection's method do not count. -/
theorem selectedCertificates_withCertificates {held files : Certificates}
    (h : ∀ method, s.tlsMode ≠ .disable → s.tlsMethod = some method →
      (s.withCertificates held files).certificatesFrom method = s.certificatesFrom method) :
    (s.withCertificates held files).selectedCertificates = s.selectedCertificates := by
  have hmode' : (s.withCertificates held files).tlsMode = s.tlsMode := rfl
  have hmethod' : (s.withCertificates held files).tlsMethod = s.tlsMethod := rfl
  by_cases hmode : s.tlsMode = .disable
  · rw [selectedCertificates_of_not_secured (Or.inl hmode),
      selectedCertificates_of_not_secured (Or.inl (hmode'.trans hmode))]
  · cases hmethod : s.tlsMethod with
    | none =>
      rw [selectedCertificates_of_not_secured (Or.inr hmethod),
        selectedCertificates_of_not_secured (Or.inr (hmethod'.trans hmethod))]
    | some method =>
      rw [selectedCertificates_of_secured hmode hmethod,
        selectedCertificates_of_secured (hmode'.symm ▸ hmode) (hmethod'.trans hmethod)]
      exact h method hmode hmethod

/-- They do not change the connection string. -/
theorem connectionString_withCertificates {held files : Certificates}
    (h : ∀ method, s.tlsMode ≠ .disable → s.tlsMethod = some method →
      (s.withCertificates held files).certificatesFrom method = s.certificatesFrom method) :
    (s.withCertificates held files).connectionString application =
      s.connectionString application := by
  unfold connectionString parameters
  rw [tlsParameters_eq, tlsParameters_eq, selectedCertificates_withCertificates h]
  rfl

/-- **Certificates are taken from one source.** No connection string is made exactly when the
connection is secured, a method is set, and of the client's certificate and key in its source only
one is given. Where the connection is not secured or no method is set, no certificate has any
influence; where certificates are held, those in files have none; and where they are in files, those
that are held have none. -/
theorem connectionString_selects (s : Settings) (application : String) :
    ((∃ e, s.connectionString application = .error e) ↔
      s.tlsMode ≠ .disable ∧
        ∃ method, s.tlsMethod = some method ∧ (s.certificatesFrom method).Halved) ∧
    ∀ held files : Certificates,
      (s.tlsMode = .disable ∨ s.tlsMethod = none →
        (s.withCertificates held files).connectionString application =
          s.connectionString application) ∧
      (s.tlsMethod = some .fileContent →
        (s.withCertificates (s.certificatesFrom .fileContent) files).connectionString application =
          s.connectionString application) ∧
      (s.tlsMethod = some .filePath →
        (s.withCertificates held (s.certificatesFrom .filePath)).connectionString application =
          s.connectionString application) := by
  refine ⟨?_, ?_⟩
  · have hfails : (∃ e, s.connectionString application = .error e) ↔
        ¬ ∃ text, s.connectionString application = .ok text := by
      cases s.connectionString application with
      | ok text => simp
      | error e => exact iff_of_true ⟨e, rfl⟩ nofun
    rw [hfails, exists_connectionString_iff, Certificates.not_paired_iff,
      halved_selectedCertificates_iff]
  · intro held files
    -- In all three the selection comes out the same, by the method where there is one.
    refine ⟨?_, ?_, ?_⟩
    · intro hopen
      apply connectionString_withCertificates
      intro method hmode hmethod
      rcases hopen with hdisabled | hnone
      · exact absurd hdisabled hmode
      · cases hnone.symm.trans hmethod
    · intro hheld
      apply connectionString_withCertificates
      intro method _ hmethod
      cases hheld.symm.trans hmethod
      rfl
    · intro hfiles
      apply connectionString_withCertificates
      intro method _ hmethod
      cases hfiles.symm.trans hmethod
      rfl

/-- Settings that hold a pair and a root certificate, and name the file of a key without the file of
its certificate. -/
def halfFiled (mode : TlsMode) (method : Option TlsMethod) : Settings :=
  { server := "localhost"
    port := 8812
    username := "admin"
    password := "quest"
    tlsMode := mode
    tlsMethod := method
    tlsCaCert := some "CA"
    tlsClientCert := some "CERT"
    tlsClientKey := some "KEY"
    tlsClientCertFile := some ""
    tlsClientKeyFile := some "/etc/key.pem" }

/-- The half pair is refused where files are used, and nowhere else. What other files there are
matters to neither of the others. -/
theorem connectionString_selects_halfFiled :
    (∃ e, (halfFiled .require (some .filePath)).connectionString "app" = .error e) ∧
    (∃ text, (halfFiled .require (some .fileContent)).connectionString "app" = .ok text ∧
      ((halfFiled .require (some .fileContent)).withCertificates ⟨some "CA", some "CERT", some "KEY"⟩
        ⟨some "/etc/ca.pem", none, none⟩).connectionString "app" = .ok text) ∧
    ∃ text, (halfFiled .disable (some .filePath)).connectionString "app" = .ok text ∧
      ((halfFiled .disable (some .filePath)).withCertificates ⟨none, some "CERT", none⟩
        ⟨some "/etc/ca.pem", none, none⟩).connectionString "app" = .ok text := by
  obtain ⟨hrefused, _⟩ := connectionString_selects (halfFiled .require (some .filePath)) "app"
  obtain ⟨_, hheld⟩ := connectionString_selects (halfFiled .require (some .fileContent)) "app"
  obtain ⟨_, hopen⟩ := connectionString_selects (halfFiled .disable (some .filePath)) "app"
  have hnotEmpty : ¬ IsGiven (some "") := by
    rintro ⟨_, heq, hne⟩
    exact hne (Option.some.inj heq).symm
  refine ⟨hrefused.mpr ⟨nofun, .filePath, rfl, Or.inr ⟨hnotEmpty, _, rfl, by decide⟩⟩, ?_, ?_⟩
  · obtain ⟨_, hcontent, _⟩ := hheld ⟨none, none, none⟩ ⟨some "/etc/ca.pem", none, none⟩
    exact ⟨_, rfl, hcontent rfl⟩
  · obtain ⟨hany, _⟩ := hopen ⟨none, some "CERT", none⟩ ⟨some "/etc/ca.pem", none, none⟩
    exact ⟨_, rfl, hany (Or.inl rfl)⟩

end Settings

end FrameSource
