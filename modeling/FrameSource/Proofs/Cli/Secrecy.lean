import FrameSource.Cli.Run
import FrameSource.Proofs.Datasource.Certificates
import FrameSource.Proofs.Datasource.Secrecy

/-!
# What the connection string of the command line shows

The command covers the password before it writes the connection string. The certificates that are
held in the settings are secrets as well, and it does not cover them: a secured connection that
takes its certificates from there shows them, if it can be described at all.

**Held certificates are shown, or no secret is** (`output_connectionString_eq_iff`): for two
configurations that differ in their secrets alone the command does the same, unless it shows the
held certificates of one of them and the other has others.

Only this one command is looked at, and what it writes to its output. Whether anything else that
runs on the machine may see its arguments or its environment is not a matter of the program.
-/

namespace FrameSource

open Parameter

/-! ## Settings that hold other certificates -/

namespace Settings

/-- The connection is secured, and its certificates are those that the settings hold. -/
def UsesHeld (s : Settings) : Prop :=
  s.tlsMode ≠ .disable ∧ s.tlsMethod = some .fileContent

variable {s : Settings} {c c' : Certificates} {application : String}

/-- Held certificates that are not used do not matter. -/
theorem connectionString_hold_of_not_usesHeld (h : ¬ s.UsesHeld) :
    (s.hold c).connectionString application = (s.hold c').connectionString application := by
  have hunused : ∀ c : Certificates, (s.withCertificates c s.certificateFiles).connectionString
      application = s.connectionString application := by
    intro c
    apply connectionString_withCertificates
    intro method hmode hmethod
    cases method with
    | fileContent => exact absurd ⟨hmode, hmethod⟩ h
    | filePath => rfl
  exact (hunused c).trans (hunused c').symm

/-- Settings that use held certificates write those that they hold, and fail as these do. -/
theorem tlsParameters_hold (h : s.UsesHeld) :
    (s.hold c).tlsParameters = c.parameters.map (Parameter.plain "sslinline" "true" :: ·) := by
  unfold tlsParameters
  rw [if_neg (show (s.hold c).tlsMode ≠ .disable from h.1),
    show (s.hold c).tlsMethod = some .fileContent from h.2]
  rfl

theorem tlsEntries_hold (h : s.UsesHeld) :
    (s.hold c).tlsEntries = ("sslinline", "true") :: c.entries := by
  have hmode : (s.hold c).tlsMode ≠ .disable := h.1
  have hmethod : (s.hold c).tlsMethod = some .fileContent := h.2
  unfold tlsEntries selectedCertificates
  rw [if_pos ⟨hmode, hmethod⟩, if_neg hmode, hmethod]
  rfl

/-- A client certificate without its key, or a key without its certificate, leaves no connection
string to show. -/
theorem connectionString_hold_of_not_paired (h : s.UsesHeld) (hc : ¬ c.Paired) :
    (s.hold c).connectionString application = .error .incompleteClientCertificate := by
  unfold connectionString parameters
  rw [tlsParameters_hold h, Certificates.parameters_of_not_paired hc]
  rfl

/-- A connection string that is made can be read. -/
theorem exists_connectionString_hold (application : String) (h : s.UsesHeld) (hc : c.Paired) :
    ∃ text, (s.hold c).connectionString application = .ok text ∧
      items? text.toList =
        some (s.baseEntries application ++ ("sslinline", "true") :: c.entries) := by
  obtain ⟨ps, hps⟩ := Certificates.exists_parameters_iff.mpr hc
  have htls : (s.hold c).tlsParameters = .ok (Parameter.plain "sslinline" "true" :: ps) := by
    rw [tlsParameters_hold h, hps]
    rfl
  have hsays := (says_baseParameters (s.hold c) application).append (says_tlsParameters htls)
  refine ⟨String.ofList (writeAll ((s.hold c).baseParameters application ++
    Parameter.plain "sslinline" "true" :: ps)), ?_, ?_⟩
  · unfold connectionString parameters
    rw [htls]
    rfl
  · rw [String.toList_ofList, items?_writeAll hsays.readable, hsays.entries, tlsEntries_hold h]
    rfl

/-- Whether the client certificate is complete can be told from what the command prints, as half of
one makes it fail. -/
theorem paired_of_connectionString_eq (h : s.UsesHeld) (hc : c.Paired)
    (heq : (s.hold c).connectionString application = (s.hold c').connectionString application) :
    c'.Paired := by
  refine Classical.byContradiction fun hc' => ?_
  obtain ⟨text, htext, _⟩ := exists_connectionString_hold application h hc
  rw [htext, connectionString_hold_of_not_paired h hc'] at heq
  cases heq

/-- The connection string determines the certificates in it: its items are read back, and the
entries of the certificates are the last of them. -/
theorem present_of_connectionString_eq (h : s.UsesHeld) (hc : c.Paired) (hc' : c'.Paired)
    (heq : (s.hold c).connectionString application = (s.hold c').connectionString application) :
    c.present = c'.present := by
  obtain ⟨text, htext, hitems⟩ := exists_connectionString_hold application h hc
  obtain ⟨text', htext', hitems'⟩ := exists_connectionString_hold application h hc'
  obtain rfl : text = text' := by
    rw [htext, htext'] at heq
    exact Except.ok.inj heq
  rw [hitems] at hitems'
  have hentries := List.append_cancel_left (Option.some.inj hitems')
  exact Certificates.present_of_entries_eq hc hc' (List.cons.inj hentries).2

/-- The certificates that settings hold matter for the connection string only where they are used
and can be, and there they matter always. -/
theorem connectionString_hold_eq_iff (c c' : Certificates) :
    (s.hold c).connectionString application = (s.hold c').connectionString application ↔
      ¬ s.UsesHeld ∨ (¬ c.Paired ∧ ¬ c'.Paired) ∨ c.present = c'.present := by
  constructor
  · intro heq
    -- If both are complete the printed items are read back and compared.
    by_cases h : s.UsesHeld
    · refine Or.inr ?_
      by_cases hc : c.Paired
      · have hc' := paired_of_connectionString_eq h hc heq
        exact Or.inr (present_of_connectionString_eq h hc hc' heq)
      · exact Or.inl ⟨hc, fun hc' => hc (paired_of_connectionString_eq h hc' heq.symm)⟩
    · exact Or.inl h
  · rintro (h | ⟨hc, hc'⟩ | hpresent)
    · exact connectionString_hold_of_not_usesHeld h
    · by_cases h : s.UsesHeld
      · rw [connectionString_hold_of_not_paired h hc, connectionString_hold_of_not_paired h hc']
      · exact connectionString_hold_of_not_usesHeld h
    · by_cases h : s.UsesHeld
      · unfold connectionString parameters
        rw [tlsParameters_hold h, tlsParameters_hold h, Certificates.parameters_congr hpresent]
        rfl
      · exact connectionString_hold_of_not_usesHeld h

end Settings

namespace Cli

/-- The settings as the command describes them. -/
def covered (s : Settings) : Settings := { s with password := "********" }

theorem covered_eq_hold (s : Settings) : covered s = (covered s).hold s.heldCertificates := rfl

/-- What the command does with settings that are complete. -/
theorem output_connectionString {c : Config} (hostVersion : Option String)
    (h : c.datasource.validate = .ok ()) :
    Command.output c (.connectionString hostVersion) =
      ExceptT.mk (Script.done
        (match (covered c.datasource).connectionString (clientVersion hostVersion) with
          | .ok text => .ok (Text.unlines [text])
          | .error e => .error ⟨e.message, []⟩)) := by
  have hcovered : coveredConnectionString c.datasource hostVersion =
      ((covered c.datasource).connectionString (clientVersion hostVersion)).mapError
        fun e => ⟨e.message, []⟩ := by
    unfold coveredConnectionString
    rw [h]
    rfl
  rw [Command.output, hcovered]
  cases (covered c.datasource).connectionString (clientVersion hostVersion) with
  | ok text => rfl
  | error e => rfl

/-- Nothing of a text is lost when it is printed as a line. -/
theorem unlines_singleton_inj {s t : String} (h : Text.unlines [s] = Text.unlines [t]) : s = t := by
  have happend : s ++ "\n" = t ++ "\n" := by
    simpa [Text.unlines, String.join] using h
  have hlists := congrArg String.toList happend
  rw [String.toList_append, String.toList_append] at hlists
  exact String.toList_inj.mp (List.append_cancel_right hlists)

/-- The command does the same for two configurations if it describes their settings in the same
way. -/
theorem output_eq_iff_connectionString_eq {c c' : Config} (hostVersion : Option String)
    (h : c.datasource.validate = .ok ()) (h' : c'.datasource.validate = .ok ()) :
    Command.output c (.connectionString hostVersion) =
        Command.output c' (.connectionString hostVersion) ↔
      (covered c.datasource).connectionString (clientVersion hostVersion) =
        (covered c'.datasource).connectionString (clientVersion hostVersion) := by
  rw [output_connectionString hostVersion h, output_connectionString hostVersion h']
  constructor
  · intro heq
    have hresult := Script.done.inj heq
    cases hs : (covered c.datasource).connectionString (clientVersion hostVersion) with
    | ok text =>
      cases hs' : (covered c'.datasource).connectionString (clientVersion hostVersion) with
      | ok text' =>
        rw [hs, hs'] at hresult
        rw [unlines_singleton_inj (Except.ok.inj hresult)]
      | error e' =>
        rw [hs, hs'] at hresult
        cases hresult
    | error e =>
      cases hs' : (covered c'.datasource).connectionString (clientVersion hostVersion) with
      | ok text' =>
        rw [hs, hs'] at hresult
        cases hresult
      | error e' =>
        cases e
        cases e'
        rfl
  · intro heq
    rw [heq]

/-- **Held certificates are shown, or no secret is.** Two configurations that are complete and
differ in secrets alone make the command do the same in three cases: the connection does not use
held certificates; neither settings hold a usable client certificate, so that both fail; or they
hold the same certificates. -/
theorem output_connectionString_eq_iff {c c' : Config} (hostVersion : Option String)
    (h : c.datasource.validate = .ok ()) (h' : c'.datasource.validate = .ok ())
    (hsame : c.datasource.withoutSecrets = c'.datasource.withoutSecrets) :
    Command.output c (.connectionString hostVersion) =
        Command.output c' (.connectionString hostVersion) ↔
      ¬ c.datasource.UsesHeld ∨
        (¬ c.datasource.heldCertificates.Paired ∧ ¬ c'.datasource.heldCertificates.Paired) ∨
        c.datasource.heldCertificates.present = c'.datasource.heldCertificates.present := by
  have hcovered : covered c'.datasource =
      (covered c.datasource).hold c'.datasource.heldCertificates := by
    rw [Settings.eq_of_withoutSecrets hsame]
    rfl
  rw [output_eq_iff_connectionString_eq hostVersion h h', hcovered, covered_eq_hold c.datasource]
  exact Settings.connectionString_hold_eq_iff c.datasource.heldCertificates
    c'.datasource.heldCertificates

/-- A secured connection with certificates in the settings or in files. -/
def secured (method : TlsMethod) (password certificate : String) : Config where
  datasource :=
    { server := "localhost"
      port := 8812
      username := "admin"
      password
      tlsMode := .verifyFull
      tlsMethod := some method
      tlsCaCert := some certificate
      tlsCaCertFile := some "/etc/ca.pem" }

/-- Certificates in files keep the password and the held certificate out of the text. -/
theorem output_connectionString_filePath :
    (secured .filePath "one" "first").datasource.validate = .ok () ∧
    (secured .filePath "two" "second").datasource.validate = .ok () ∧
    (secured .filePath "one" "first").datasource.withoutSecrets =
      (secured .filePath "two" "second").datasource.withoutSecrets ∧
    Command.output (secured .filePath "one" "first") (.connectionString (some "11.0.0")) =
      Command.output (secured .filePath "two" "second") (.connectionString (some "11.0.0")) := by
  have h : (secured .filePath "one" "first").datasource.validate = .ok () := rfl
  have h' : (secured .filePath "two" "second").datasource.validate = .ok () := rfl
  have hsame : (secured .filePath "one" "first").datasource.withoutSecrets =
      (secured .filePath "two" "second").datasource.withoutSecrets := rfl
  refine ⟨h, h', hsame, ?_⟩
  refine (output_connectionString_eq_iff (some "11.0.0") h h' hsame).mpr (Or.inl ?_)
  exact fun huses => nomatch huses.2

/-- A held certificate is printed: two configurations that differ in nothing but a certificate,
which neither leaves out, are told apart by what the command prints. -/
theorem output_connectionString_fileContent :
    (secured .fileContent "one" "first").datasource.validate = .ok () ∧
    (secured .fileContent "one" "second").datasource.validate = .ok () ∧
    (secured .fileContent "one" "first").datasource.withoutSecrets =
      (secured .fileContent "one" "second").datasource.withoutSecrets ∧
    Command.output (secured .fileContent "one" "first") (.connectionString none) ≠
      Command.output (secured .fileContent "one" "second") (.connectionString none) := by
  have h : (secured .fileContent "one" "first").datasource.validate = .ok () := rfl
  have h' : (secured .fileContent "one" "second").datasource.validate = .ok () := rfl
  refine ⟨h, h', rfl, ?_⟩
  intro heq
  have hstrings := (output_eq_iff_connectionString_eq none h h').mp heq
  have hcases := (Settings.connectionString_hold_eq_iff
    (s := covered (secured .fileContent "one" "first").datasource)
    ⟨some "first", none, none⟩ ⟨some "second", none, none⟩).mp hstrings
  rcases hcases with hunused | ⟨hunpaired, _⟩ | hpresent
  · exact hunused ⟨nofun, rfl⟩
  · exact hunpaired rfl
  · exact absurd hpresent (by decide)

end Cli

end FrameSource
