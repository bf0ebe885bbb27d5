import FrameSource.Proofs.Datasource.Grammar

/-!
# What a connection string says

The keys and values that a client library reads from a connection string, listed from the settings
themselves. Which keys there are depends on numbers being positive, on texts being empty, and on how
the connection is secured; it never depends on what a text contains.

**A connection string is read as the entries of its settings** (`items?_connectionString`).
-/

namespace FrameSource

open Parameter

/-! ## Entries -/

/-- The entries of certificates: the root certificate, if it is given, and the client's certificate
and key, if both are. -/
def Certificates.entries (c : Certificates) : List (String × String) :=
  ((given c.root).map ("sslrootcert", ·)).toList ++
  match given c.client, given c.key with
  | some cert, some key => [("sslcert", cert), ("sslkey", key)]
  | _, _ => []

namespace Settings

/-- The certificates in the source of a method: those that the settings hold, or the paths of files. -/
def certificatesFrom (s : Settings) : TlsMethod → Certificates
  | .fileContent => ⟨s.tlsCaCert, s.tlsClientCert, s.tlsClientKey⟩
  | .filePath => ⟨s.tlsCaCertFile, s.tlsClientCertFile, s.tlsClientKeyFile⟩

/-- The certificates that count: those of the method's source, and none where the connection is not
secured or no method is set. -/
def selectedCertificates (s : Settings) : Certificates :=
  if s.tlsMode = .disable then ⟨none, none, none⟩
  else
    match s.tlsMethod with
    | none => ⟨none, none, none⟩
    | some method => s.certificatesFrom method

/-- The entries that every connection has, under the name of an application. -/
def baseEntries (s : Settings) (application : String) : List (String × String) :=
  [("user", s.username), ("password", s.password), ("host", s.server), ("dbname", "qdb")] ++
  (if 0 < s.port.toInt then [("port", Text.intText s.port.toInt)] else []) ++
  (if application.isEmpty then [] else [("application_name", application)]) ++
  (if 0 < s.timeout.toNat then [("connect_timeout", Text.natText s.timeout.toNat)] else []) ++
  [("sslmode", s.tlsMode.word)]

/-- The entries of a secured connection. -/
def tlsEntries (s : Settings) : List (String × String) :=
  (if s.tlsMode ≠ .disable ∧ s.tlsMethod = some .fileContent then [("sslinline", "true")]
   else []) ++
  s.selectedCertificates.entries

/-- The entries of a connection under the name of an application. -/
def entries (s : Settings) (application : String) : List (String × String) :=
  s.baseEntries application ++ s.tlsEntries

/-- The parameter that says that certificates stand in the connection string itself. -/
def inlineParameters (s : Settings) : List Parameter :=
  if s.tlsMode ≠ .disable ∧ s.tlsMethod = some .fileContent then [.plain "sslinline" "true"]
  else []

/-- What depends on the certificates depends on those that count. -/
theorem tlsParameters_eq (s : Settings) :
    s.tlsParameters = s.selectedCertificates.parameters.map (s.inlineParameters ++ ·) := by
  unfold tlsParameters selectedCertificates inlineParameters
  by_cases hmode : s.tlsMode = .disable
  · rw [if_pos hmode, if_pos hmode, if_neg (fun hsecured => hsecured.1 hmode)]
    rfl
  · rw [if_neg hmode, if_neg hmode]
    cases hmethod : s.tlsMethod with
    | none =>
      rw [if_neg (fun hsecured => nomatch hsecured.2)]
      rfl
    | some method =>
      cases method with
      | fileContent =>
        rw [if_pos ⟨hmode, rfl⟩]
        rfl
      | filePath =>
        rw [if_neg (fun hsecured => nomatch hsecured.2)]
        show s.certificateFiles.parameters = (s.certificatesFrom .filePath).parameters.map id
        have hsame : s.certificatesFrom .filePath = s.certificateFiles := rfl
        rw [hsame]
        cases s.certificateFiles.parameters <;> rfl

end Settings

/-! ## Parameters with entries -/

namespace Parameter

/-- Parameters that the grammar reads as some entries. -/
structure Says (ps : List Parameter) (es : List (String × String)) : Prop where
  readable : ∀ p ∈ ps, p.Readable
  entries : ps.map entry = es

namespace Says

variable {ps qs : List Parameter} {es fs : List (String × String)} {key value : String}

theorem nil : Says [] [] := ⟨fun _ hp => absurd hp List.not_mem_nil, rfl⟩

theorem cons {p : Parameter} (hkey : isKey p.key = true) (hvalue : Legible p.value)
    (h : Says ps es) : Says (p :: ps) (p.entry :: es) := by
  refine ⟨List.forall_mem_cons.mpr ⟨⟨hkey, hvalue⟩, h.readable⟩, ?_⟩
  rw [List.map_cons, h.entries]

/-- A text is always legible, since it is quoted wherever it must be; only the key has to be looked
at. -/
theorem text (hkey : isKey key = true) (h : Says ps es) :
    Says (.text key value :: ps) ((key, value) :: es) :=
  cons (p := .text key value) hkey trivial h

theorem plain (hkey : isKey key = true) (hvalue : Legible (.bare value)) (h : Says ps es) :
    Says (.plain key value :: ps) ((key, value) :: es) :=
  cons (p := .plain key value) hkey hvalue h

theorem append (h : Says ps es) (h' : Says qs fs) : Says (ps ++ qs) (es ++ fs) := by
  refine ⟨List.forall_mem_append.mpr ⟨h.readable, h'.readable⟩, ?_⟩
  rw [List.map_append, h.entries, h'.entries]

/-- Parameters may depend on a condition, if their entries depend on the same one. -/
theorem ite {c : Prop} [Decidable c] (h : Says ps es) (h' : Says qs fs) :
    Says (if c then ps else qs) (if c then es else fs) := by
  by_cases hc : c
  · rw [if_pos hc, if_pos hc]
    exact h
  · rw [if_neg hc, if_neg hc]
    exact h'

end Says

end Parameter

/-- Digits with or without a sign are a legible value. -/
theorem legible_intText (n : Int) : Legible (.bare (Text.intText n)) := by
  have hdigit : ∀ n : Nat, ∀ c ∈ Text.decimal n, c ≠ ' ' ∧ c ≠ '\'' := by
    intro n c hc
    have hisDigit := List.all_eq_true.mp (Text.all_isDigit_decimal n) c hc
    constructor
    · rintro rfl
      cases hisDigit
    · rintro rfl
      cases hisDigit
  have hchars : ∀ c ∈ Text.decimalInt n, c ≠ ' ' ∧ c ≠ '\'' := by
    cases n with
    | ofNat n => exact hdigit n
    | negSucc n =>
      intro c hc
      rcases List.mem_cons.mp hc with rfl | hc
      · exact ⟨by decide, by decide⟩
      · exact hdigit (n + 1) c hc
  have htext : (Text.intText n).toList = Text.decimalInt n := String.toList_ofList
  refine ⟨?_, ?_⟩
  · rw [htext, List.all_eq_true]
    intro c hc
    exact decide_eq_true (hchars c hc).1
  · intro hhead
    rw [htext] at hhead
    exact (hchars '\'' (List.mem_of_head? hhead)).2 rfl

/-- Numbers are written bare. Their digits are none of the characters that would ask for quotes. -/
theorem legible_natText (n : Nat) : Legible (.bare (Text.natText n)) :=
  legible_intText n

/-- Certificates that make parameters make those of their entries. -/
theorem Certificates.says_parameters {c : Certificates} {ps : List Parameter}
    (h : c.parameters = .ok ps) : Says ps c.entries := by
  have hroot : Says ((given c.root).map (Parameter.text "sslrootcert")).toList
      ((given c.root).map ("sslrootcert", ·)).toList := by
    cases given c.root with
    | none => exact .nil
    | some root => exact .text (by decide) .nil
  unfold parameters at h
  unfold entries
  cases hclient : given c.client with
  | none =>
    rw [hclient] at h
    cases hkey : given c.key with
    | none =>
      rw [hkey] at h
      cases h
      have honly := hroot.append .nil
      rw [List.append_nil] at honly
      exact honly
    | some key =>
      rw [hkey] at h
      cases h
  | some cert =>
    rw [hclient] at h
    cases hkey : given c.key with
    | none =>
      rw [hkey] at h
      cases h
    | some key =>
      rw [hkey] at h
      cases h
      exact hroot.append (.text (by decide) (.text (by decide) .nil))

namespace Settings

theorem says_baseParameters (s : Settings) (application : String) :
    Says (s.baseParameters application) (s.baseEntries application) := by
  unfold baseParameters baseEntries
  have hfirst : Says [.text "user" s.username, .text "password" s.password, .text "host" s.server,
      .text "dbname" databaseName]
      [("user", s.username), ("password", s.password), ("host", s.server), ("dbname", "qdb")] :=
    .text (by decide) (.text (by decide) (.text (by decide) (.text (by decide) .nil)))
  have hport : Says [.plain "port" (Text.intText s.port.toInt)]
      [("port", Text.intText s.port.toInt)] :=
    .plain (by decide) (legible_intText _) .nil
  have happlication : Says [.text "application_name" application]
      [("application_name", application)] :=
    .text (by decide) .nil
  have htimeout : Says [.plain "connect_timeout" (Text.natText s.timeout.toNat)]
      [("connect_timeout", Text.natText s.timeout.toNat)] :=
    .plain (by decide) (legible_natText _) .nil
  have hmode : Says [.text "sslmode" s.tlsMode.word] [("sslmode", s.tlsMode.word)] :=
    .text (by decide) .nil
  exact (((hfirst.append (hport.ite .nil)).append (.ite .nil happlication)).append
    (htimeout.ite .nil)).append hmode

theorem says_tlsParameters {s : Settings} {ps : List Parameter} (h : s.tlsParameters = .ok ps) :
    Says ps s.tlsEntries := by
  obtain ⟨qs, hqs, rfl⟩ : ∃ qs, s.selectedCertificates.parameters = .ok qs ∧
      s.inlineParameters ++ qs = ps := by
    rw [tlsParameters_eq] at h
    cases hqs : s.selectedCertificates.parameters with
    | error e =>
      rw [hqs] at h
      cases h
    | ok qs =>
      rw [hqs] at h
      exact ⟨qs, rfl, Except.ok.inj h⟩
  have hinline : Says [.plain "sslinline" "true"] [("sslinline", "true")] :=
    .plain (by decide) ⟨by decide, by decide⟩ .nil
  exact (hinline.ite .nil).append (Certificates.says_parameters hqs)

/-- **A connection string is read as the entries of its settings.** Whatever stands in a text, it
comes back as the value of its own key, and the other keys and values are what they are. -/
theorem items?_connectionString {s : Settings} {application text : String}
    (h : s.connectionString application = .ok text) :
    items? text.toList = some (s.entries application) := by
  unfold connectionString parameters at h
  cases htls : s.tlsParameters with
  | error e =>
    rw [htls] at h
    cases h
  | ok ps =>
    rw [htls] at h
    cases h
    have hsays := (says_baseParameters s application).append (says_tlsParameters htls)
    rw [String.toList_ofList, items?_writeAll hsays.readable, hsays.entries]
    rfl

/-- Settings in which texts do their best to be taken for something else. -/
def hostile : Settings :=
  { server := "' host='elsewhere"
    port := 8812
    username := "it's \\"
    password := "\\\\' sslmode='disable"
    tlsMode := .verifyFull
    tlsMethod := some .fileContent
    tlsCaCert := some "-----BEGIN\n'\\'\n-----END"
    tlsClientCert := some " "
    tlsClientKey := some "="
    tlsCaCertFile := some "unused" }

/-- Hostile settings that name files of certificates, and use them. -/
def hostileFiles : Settings :=
  { hostile with
    tlsMethod := some .filePath
    tlsCaCertFile := some "/etc/ca 1.pem"
    tlsClientCertFile := some "C:\\certs\\' sslkey='"
    tlsClientKeyFile := some "key" }

/-- Both sources of certificates are read back, each under its own keys, and nothing of the other. -/
theorem items?_connectionString_hostile :
    (∃ text, hostile.connectionString "grafana:'11;questframe" = .ok text ∧
      items? text.toList = some
        [("user", "it's \\"), ("password", "\\\\' sslmode='disable"),
          ("host", "' host='elsewhere"), ("dbname", "qdb"), ("port", "8812"),
          ("application_name", "grafana:'11;questframe"), ("connect_timeout", "10"),
          ("sslmode", "verify-full"), ("sslinline", "true"),
          ("sslrootcert", "-----BEGIN\n'\\'\n-----END"), ("sslcert", " "), ("sslkey", "=")]) ∧
    ∃ text, hostileFiles.connectionString "" = .ok text ∧
      items? text.toList = some
        [("user", "it's \\"), ("password", "\\\\' sslmode='disable"),
          ("host", "' host='elsewhere"), ("dbname", "qdb"), ("port", "8812"),
          ("connect_timeout", "10"), ("sslmode", "verify-full"),
          ("sslrootcert", "/etc/ca 1.pem"), ("sslcert", "C:\\certs\\' sslkey='"),
          ("sslkey", "key")] := by
  refine ⟨?_, ?_⟩
  · obtain ⟨text, htext⟩ : ∃ text,
        hostile.connectionString "grafana:'11;questframe" = .ok text := ⟨_, rfl⟩
    refine ⟨text, htext, ?_⟩
    rw [items?_connectionString htext]
    rfl
  · obtain ⟨text, htext⟩ : ∃ text, hostileFiles.connectionString "" = .ok text := ⟨_, rfl⟩
    refine ⟨text, htext, ?_⟩
    rw [items?_connectionString htext]
    rfl

end Settings

end FrameSource
