import FrameSource.Datasource.Settings
import FrameSource.Number.Spelling
import FrameSource.Text.Blank

/-!
# Instances

A host stores the settings of a datasource as JSON, where numbers may be given as texts, and keeps
the secrets apart. Loading an instance checks its numbers and words in a fixed order, takes the
secrets only from where they are kept, and ends with the check that the settings are complete.

Which texts hold an instance is settled here (`Instance.ofText?`). What is said about a text that
holds none is not: its words, with the line and the column of the fault, are those of whoever reads
JSON, and `Settings.ofInstance` is given them as a function of the text.
-/

namespace FrameSource

/-- A number as a host stores it. -/
inductive HostNumber where
  | number (x : Double)
  | text (s : String)
deriving DecidableEq, Repr

namespace HostNumber

/-- A number or a text in JSON. -/
def ofTree? : Json.Tree → Option HostNumber
  | .number n =>
    match n.number? with
    | some (.int k) => some (.number (Floating.ofInt .double k))
    | some (.double x) => some (.number x)
    | _ => none
  | .string s => (Json.text? s).map .text
  | _ => none

/-- The integer that a stored number denotes; a blank text counts as not set. -/
def toInt (field : String) : HostNumber → Except SettingsError (Option Int)
  | .number x =>
    match x.toInt?.filter Text.inInt64 with
    | some n => .ok (some n)
    | none => .error (.invalidNumber field (x.spell .plain))
  | .text s =>
    if Text.isBlankText s then .ok none
    else
      match Text.readInt64? (Text.trim s.toList) with
      | some n => .ok (some n)
      | none => .error (.invalidNumber field s)

/-- The number that a stored number denotes where it must not be negative. -/
def toNat (field : String) (h : HostNumber) : Except SettingsError (Option Nat) := do
  match ← h.toInt field with
  | none => return none
  | some n =>
    if n < 0 then throw (.invalidNumber field (Text.intText n))
    return some n.toNat

end HostNumber

/-- The fields of an instance as they are stored. -/
structure Instance where
  server : Option String := none
  port : Option HostNumber := none
  username : Option String := none
  timeout : Option HostNumber := none
  queryTimeout : Option HostNumber := none
  maxOpenConnections : Option HostNumber := none
  maxIdleConnections : Option HostNumber := none
  maxConnectionLifetime : Option HostNumber := none
  tlsMode : Option String := none
  tlsMethod : Option String := none
  tlsCaCertFile : Option String := none
  tlsClientCertFile : Option String := none
  tlsClientKeyFile : Option String := none
deriving DecidableEq, Repr

namespace Instance

/-- The names of the fields, in the order of a record. -/
def fieldNames : List (List String) :=
  [["server"], ["port"], ["username"], ["timeout"], ["queryTimeout"], ["maxOpenConnections"],
   ["maxIdleConnections"], ["maxConnectionLifetime"], ["tlsMode"], ["tlsConfigurationMethod"],
   ["tlsCaCertFile", "tlsCACertFile"], ["tlsClientCertFile"], ["tlsClientKeyFile"]]

/-- An instance in JSON. Every field may be absent or `null`. -/
def ofTree? (t : Json.Tree) : Option Instance := do
  let text := RecordSource.orDefault none (Json.source.optional? Json.Tree.string?)
  let number := RecordSource.orDefault none (Json.source.optional? HostNumber.ofTree?)
  match ← t.fields? fieldNames with
  | [server, port, username, timeout, queryTimeout, maxOpenConnections, maxIdleConnections,
      maxConnectionLifetime, tlsMode, tlsMethod, tlsCaCertFile, tlsClientCertFile,
      tlsClientKeyFile] =>
    return {
      server := ← text server
      port := ← number port
      username := ← text username
      timeout := ← number timeout
      queryTimeout := ← number queryTimeout
      maxOpenConnections := ← number maxOpenConnections
      maxIdleConnections := ← number maxIdleConnections
      maxConnectionLifetime := ← number maxConnectionLifetime
      tlsMode := ← text tlsMode
      tlsMethod := ← text tlsMethod
      tlsCaCertFile := ← text tlsCaCertFile
      tlsClientCertFile := ← text tlsClientCertFile
      tlsClientKeyFile := ← text tlsClientKeyFile }
  | _ => none

/-- The instance that a JSON text holds. -/
def ofText? (json : String) : Option Instance :=
  Json.Tree.parse? json >>= ofTree?

/-- An integer field, zero if it is not set. -/
def int (field : String) (h : Option HostNumber) : Except SettingsError Int64 :=
  match h with
  | none => .ok 0
  | some h => (h.toInt field).map fun n => Int64.ofInt (n.getD 0)

/-- A field in seconds, which has a default. -/
def seconds (field : String) (default : UInt64) (h : Option HostNumber) :
    Except SettingsError UInt64 :=
  match h with
  | none => .ok default
  | some h => (h.toNat field).map fun n => (n.map UInt64.ofNat).getD default

/-- A field that holds a word; the empty text counts as not set. -/
def word {α : Type} (parse : String → Except SettingsError α) (s : Option String) :
    Except SettingsError (Option α) :=
  match s with
  | none => .ok none
  | some s => if s.isEmpty then .ok none else (parse s).map some

/-- The settings of an instance with its secrets, before the check that they are complete. -/
def settings (i : Instance) (secret : String → Option String) :
    Except SettingsError Settings := do
  let port ← int "port" i.port
  let timeout ← seconds "timeout" Settings.default.timeout i.timeout
  let queryTimeout ← seconds "queryTimeout" Settings.default.queryTimeout i.queryTimeout
  let maxOpenConnections ← int "maxOpenConnections" i.maxOpenConnections
  let maxIdleConnections ← int "maxIdleConnections" i.maxIdleConnections
  let maxConnectionLifetime ← int "maxConnectionLifetime" i.maxConnectionLifetime
  let tlsMode ← word TlsMode.parse i.tlsMode
  let tlsMethod ← word TlsMethod.parse i.tlsMethod
  return {
    server := i.server.getD ""
    port, timeout, queryTimeout, maxOpenConnections, maxIdleConnections, maxConnectionLifetime
    username := i.username.getD ""
    password := (secret "password").getD ""
    tlsMode := tlsMode.getD .disable
    tlsMethod
    tlsCaCert := secret "tlsCACert"
    tlsClientCert := secret "tlsClientCert"
    tlsClientKey := secret "tlsClientKey"
    tlsCaCertFile := i.tlsCaCertFile
    tlsClientCertFile := i.tlsClientCertFile
    tlsClientKeyFile := i.tlsClientKeyFile }

/-- The settings of an instance with its secrets, checked to be complete. -/
def load (i : Instance) (secret : String → Option String) : Except SettingsError Settings := do
  let s ← i.settings secret
  s.validate
  return s

end Instance

/-- The settings that a host stores as a JSON text, with its secrets. `refusal` is what the reader of
JSON says about a text that holds no instance. -/
def Settings.ofInstance (refusal : String → String) (json : String)
    (secret : String → Option String) : Except SettingsError Settings :=
  match Instance.ofText? json with
  | some i => i.load secret
  | none => .error (.invalidJson (refusal json))

end FrameSource
