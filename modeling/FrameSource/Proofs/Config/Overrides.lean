import FrameSource.Config.Basic
import FrameSource.Proofs.Text.Numerals

/-!
# What the environment overrides

Seven variables override one value of a configuration each. A variable with a text is taken as it
is, whatever it says; the variable of the port counts only when it is a numeral that fits the port,
without blanks around it, and the variable of the mode only when it is the word for a mode. A
variable that is not set, or says nothing that can be used, overrides nothing (`Overrides`).

**The overrides are independent** (`applyOverrides_overrides`): each value is decided by its own
variable alone, so that one that is of no use does not stop the others, and nothing else of the
configuration is touched. A second time they change nothing.

How a configuration is found and read before that is not looked at here, nor whether what the
overrides leave can be used: an empty server is taken as it is.
-/

namespace FrameSource

theorem TlsMode.ofWord?_eq_some_iff {s : String} {m : TlsMode} : ofWord? s = some m ↔ s = m.word := by
  constructor
  · intro h
    unfold ofWord? at h
    split_ifs at h with hdisable hrequire hca hfull <;> cases h <;> assumption
  · rintro rfl
    exact ofWord?_word m

namespace Config

/-! ## One value -/

section Value

variable {α : Type} {Denotes : String → α → Prop} {read : String → Option α} {var : Option String}
  {old new : α}

/-- A value after its variable was looked at: what the variable denotes, or else what it was. -/
inductive Overrides (Denotes : String → α → Prop) (var : Option String) (old : α) : α → Prop
  | taken {s : String} {new : α} (isSet : var = some s) (denotes : Denotes s new) :
    Overrides Denotes var old new
  | kept (unusable : ∀ s, var = some s → ∀ a, ¬ Denotes s a) : Overrides Denotes var old old

/-- A reading that reads what is denoted overrides values. -/
theorem overrides_iff (hread : ∀ s a, read s = some a ↔ Denotes s a) :
    Overrides Denotes var old new ↔ overrideWith read var old = new := by
  unfold overrideWith
  constructor
  · intro h
    cases h with
    | taken isSet denotes => rw [isSet, Option.bind_some, (hread _ _).mpr denotes, Option.getD_some]
    | kept unusable =>
      have hnone : var.bind read = none := by
        rw [Option.bind_eq_none_iff]
        intro s isSet
        exact Option.eq_none_iff_forall_ne_some.mpr
          fun a ha => unusable s isSet a ((hread s a).mp ha)
      rw [hnone, Option.getD_none]
  · rintro rfl
    cases hvalue : var.bind read with
    | none =>
      refine .kept fun s isSet a denotes => ?_
      rw [isSet, Option.bind_some, (hread s a).mpr denotes] at hvalue
      cases hvalue
    | some a =>
      obtain ⟨s, isSet, ha⟩ := Option.bind_eq_some_iff.mp hvalue
      exact .taken isSet ((hread s a).mp ha)

/-- A variable that is applied again changes nothing: what was read from it the first time is what
is read the second time. -/
theorem overrideWith_idem : overrideWith read var (overrideWith read var old) =
    overrideWith read var old := by
  unfold overrideWith
  cases var.bind read <;> rfl

end Value

/-- A text is overridden by any text. -/
theorem override_eq_overrideWith (var : Option String) (old : String) :
    override var old = overrideWith some var old := by
  cases var <;> rfl

/-- For a text, any value of the variable is taken as it stands, so the relation says no more than
the function. -/
theorem overrides_text_iff {var : Option String} {old new : String} :
    Overrides Eq var old new ↔ override var old = new := by
  rw [override_eq_overrideWith]
  exact overrides_iff fun _ _ => Option.some_inj

/-- A text is the numeral of a port. -/
def DenotesPort (s : String) (port : Int64) : Prop :=
  Text.SpellsInt s.toList port.toInt

/-- A port is read from exactly the spellings that denote it, a sign and leading zeros among them. -/
theorem readPort?_eq_some_iff (s : String) (port : Int64) :
    readPort? s = some port ↔ DenotesPort s port := by
  rw [DenotesPort, ← Text.readInt?_eq_some_iff, readPort?, Text.readInt64?]
  simp only [Option.map_eq_some_iff, Option.filter_eq_some_iff, Text.inInt64_iff]
  constructor
  · rintro ⟨n, ⟨hread, hmin, hmax⟩, rfl⟩
    rwa [Int64.toInt_ofInt_of_le hmin hmax]
  · intro hread
    exact ⟨port.toInt, ⟨hread, port.le_toInt, port.toInt_lt⟩, Int64.ofInt_toInt port⟩

/-! ## All values -/

variable {c c' : Config} {env env' : String → Option String}

/-- A configuration with the values of another one where the environment may override them. -/
def withValuesOf (c c' : Config) : Config :=
  { c with
    datasource :=
      { c.datasource with
        server := c'.datasource.server
        port := c'.datasource.port
        username := c'.datasource.username
        password := c'.datasource.password
        tlsMode := c'.datasource.tlsMode }
    logging :=
      { c.logging with
        level := c'.logging.level
        format := c'.logging.format } }

/-- A configuration after an environment was looked at: seven values, each decided by its variable,
and everything else as it was. -/
structure Overridden (env : String → Option String) (c c' : Config) : Prop where
  server : Overrides Eq (env "QUESTFRAME_SERVER") c.datasource.server c'.datasource.server
  port : Overrides DenotesPort (env "QUESTFRAME_PORT") c.datasource.port c'.datasource.port
  username : Overrides Eq (env "QUESTFRAME_USERNAME") c.datasource.username c'.datasource.username
  password : Overrides Eq (env "QUESTFRAME_PASSWORD") c.datasource.password c'.datasource.password
  tlsMode : Overrides (fun s m => s = TlsMode.word m) (env "QUESTFRAME_TLS_MODE")
    c.datasource.tlsMode c'.datasource.tlsMode
  level : Overrides Eq (env "QUESTFRAME_LOG_LEVEL") c.logging.level c'.logging.level
  format : Overrides Eq (env "QUESTFRAME_LOG_FORMAT") c.logging.format c'.logging.format
  others : c' = c.withValuesOf c'

/-- The seven overrides act on one field each, and so each field may be told by its own variable. -/
theorem overridden_applyOverrides : Overridden env c (applyOverrides c env) where
  server := overrides_text_iff.mpr rfl
  port := (overrides_iff readPort?_eq_some_iff).mpr rfl
  username := overrides_text_iff.mpr rfl
  password := overrides_text_iff.mpr rfl
  tlsMode := (overrides_iff fun _ _ => TlsMode.ofWord?_eq_some_iff).mpr rfl
  level := overrides_text_iff.mpr rfl
  format := overrides_text_iff.mpr rfl
  others := rfl

/-- What the environment overrides is determined by it. -/
theorem Overridden.eq_applyOverrides (h : Overridden env c c') : applyOverrides c env = c' := by
  rw [h.others, applyOverrides, withValuesOf, overrides_text_iff.mp h.server,
    (overrides_iff readPort?_eq_some_iff).mp h.port, overrides_text_iff.mp h.username,
    overrides_text_iff.mp h.password,
    (overrides_iff fun _ _ => TlsMode.ofWord?_eq_some_iff).mp h.tlsMode,
    overrides_text_iff.mp h.level, overrides_text_iff.mp h.format]

/-- Variables other than the seven have no influence. -/
theorem applyOverrides_congr (h : ∀ name ∈ overrideNames, env' name = env name) :
    applyOverrides c env' = applyOverrides c env := by
  simp only [overrideNames, List.forall_mem_cons] at h
  obtain ⟨server, port, username, password, tlsMode, level, format, -⟩ := h
  unfold applyOverrides
  rw [server, port, username, password, tlsMode, level, format]

/-- Overriding twice is overriding once, also where a variable cannot be read and is passed over. -/
theorem applyOverrides_idem : applyOverrides (applyOverrides c env) env = applyOverrides c env := by
  simp only [applyOverrides, override_eq_overrideWith, overrideWith_idem]

/-- Each of the seven values is decided by its own variable, and nothing else is changed; variables
of other names do not count, and a second time nothing is changed. -/
theorem applyOverrides_overrides (c : Config) (env : String → Option String) :
    (∀ c', applyOverrides c env = c' ↔ Overridden env c c') ∧
      (∀ env', (∀ name ∈ overrideNames, env' name = env name) →
        applyOverrides c env' = applyOverrides c env) ∧
      applyOverrides (applyOverrides c env) env = applyOverrides c env := by
  refine ⟨fun c' => ⟨?_, Overridden.eq_applyOverrides⟩, fun env' => applyOverrides_congr,
    applyOverrides_idem⟩
  rintro rfl
  exact overridden_applyOverrides

end Config

end FrameSource
