import FrameSource.Datasource.Tls
import FrameSource.Json.Printer
import FrameSource.Json.Record
import FrameSource.Text.Quoted

/-!
# Datasource settings

What has to be known to connect to a datasource. Four of the fields are secret: they are read like
the others, but neither the JSON form nor the diagnostic form shows them.

A text that is no JSON, or not JSON of the right kind, is refused in the words of whoever reads JSON:
which member, line and column they name is not said here, so `SettingsError.invalidJson` carries them
as they come. `Settings.parse?` only says that a text is refused, and not in which words.
-/

namespace FrameSource

/-- Why settings could not be loaded, or are not complete. -/
inductive SettingsError where
  /-- The text could not be read as JSON of the right kind, for a reason in the reader's words. -/
  | invalidJson (reason : String)
  | invalidServerName
  | invalidPort
  | invalidUserName
  | invalidPassword
  | invalidNumber (field value : String)
  | invalidTlsMode (word : String)
  | invalidTlsMethod (word : String)
deriving DecidableEq, Repr

/-- The wording of a settings error. -/
def SettingsError.message : SettingsError → String
  | .invalidJson reason => "could not parse json: " ++ reason
  | .invalidServerName => "invalid server name. Either empty or not set"
  | .invalidPort => "invalid port"
  | .invalidUserName => "username is either empty or not set"
  | .invalidPassword => "password is either empty or not set"
  | .invalidNumber field value => "could not parse " ++ field ++ " value: " ++ value
  | .invalidTlsMode word => "invalid tls mode: " ++ word
  | .invalidTlsMethod word => "invalid ssl configuration method: " ++ word

/-- The mode that a word stands for, or the complaint about it. -/
def TlsMode.parse (s : String) : Except SettingsError TlsMode :=
  match ofWord? s with
  | some m => .ok m
  | none => .error (.invalidTlsMode s)

/-- The method that a word stands for, or the complaint about it. -/
def TlsMethod.parse (s : String) : Except SettingsError TlsMethod :=
  match ofWord? s with
  | some m => .ok m
  | none => .error (.invalidTlsMethod s)

/-- Connection settings of one datasource. Times are in seconds. -/
structure Settings where
  server : String := ""
  port : Int64 := 0
  username : String := ""
  password : String := ""
  tlsMode : TlsMode := .disable
  tlsMethod : Option TlsMethod := none
  tlsCaCert : Option String := none
  tlsClientCert : Option String := none
  tlsClientKey : Option String := none
  tlsCaCertFile : Option String := none
  tlsClientCertFile : Option String := none
  tlsClientKeyFile : Option String := none
  timeout : UInt64 := 10
  queryTimeout : UInt64 := 60
  maxOpenConnections : Int64 := 0
  maxIdleConnections : Int64 := 0
  maxConnectionLifetime : Int64 := 0
deriving DecidableEq, Repr

namespace Settings

/-- Settings in which nothing is set. -/
def default : Settings := {}

/-- Checks what a connection cannot do without: server, port, user and password, in this order. -/
def validate (s : Settings) : Except SettingsError Unit :=
  if s.server.isEmpty then .error .invalidServerName
  else if s.port.toInt ≤ 0 then .error .invalidPort
  else if s.username.isEmpty then .error .invalidUserName
  else if s.password.isEmpty then .error .invalidPassword
  else .ok ()

/-- The secret fields: the password and the certificates held in the settings themselves. -/
def secrets (s : Settings) : String × Option String × Option String × Option String :=
  (s.password, s.tlsCaCert, s.tlsClientCert, s.tlsClientKey)

/-! ## Reading and writing -/

/-- The names of the fields, in the order of a record. -/
def fieldNames : List (List String) :=
  [["server"], ["port"], ["username"], ["password"], ["tls_mode"], ["tls_configuration_method"],
   ["tls_ca_cert"], ["tls_client_cert"], ["tls_client_key"], ["tls_ca_cert_file"],
   ["tls_client_cert_file"], ["tls_client_key_file"], ["timeout_secs"], ["query_timeout_secs"],
   ["max_open_connections"], ["max_idle_connections"], ["max_connection_lifetime_secs"]]

/-- Settings read from a record of a format; absent fields are not set. -/
def read? {τ : Type} (source : RecordSource τ) (t : τ) : Option Settings := do
  let text (default : String) := RecordSource.orDefault default source.string?
  let optionalText := RecordSource.orDefault none (source.optional? source.string?)
  let int := RecordSource.orDefault (0 : Int64) source.int64?
  let seconds (default : UInt64) := RecordSource.orDefault default source.uint64?
  match ← source.fields? fieldNames t with
  | [server, port, username, password, tlsMode, tlsMethod, tlsCaCert, tlsClientCert, tlsClientKey,
      tlsCaCertFile, tlsClientCertFile, tlsClientKeyFile, timeout, queryTimeout,
      maxOpenConnections, maxIdleConnections, maxConnectionLifetime] =>
    return {
      server := ← text "" server
      port := ← int port
      username := ← text "" username
      password := ← text "" password
      tlsMode := ← RecordSource.orDefault .disable (source.meaning? TlsMode.ofWord?) tlsMode
      tlsMethod := ←
        RecordSource.orDefault none (source.optional? (source.meaning? TlsMethod.ofWord?)) tlsMethod
      tlsCaCert := ← optionalText tlsCaCert
      tlsClientCert := ← optionalText tlsClientCert
      tlsClientKey := ← optionalText tlsClientKey
      tlsCaCertFile := ← optionalText tlsCaCertFile
      tlsClientCertFile := ← optionalText tlsClientCertFile
      tlsClientKeyFile := ← optionalText tlsClientKeyFile
      timeout := ← seconds 10 timeout
      queryTimeout := ← seconds 60 queryTimeout
      maxOpenConnections := ← int maxOpenConnections
      maxIdleConnections := ← int maxIdleConnections
      maxConnectionLifetime := ← int maxConnectionLifetime }
  | _ => none

/-- Settings read from a JSON text. -/
def parse? (text : String) : Option Settings := do
  read? Json.source (← Json.Tree.parse? text)

/-- An optional text in JSON. -/
def optionalJson : Option String → Json.Value
  | some s => .string s
  | none => .null

/-- Settings in JSON, without the secrets. -/
def toJson (s : Settings) : Json.Value :=
  .object
    [("server", .string s.server), ("port", .number (.int s.port.toInt)),
     ("username", .string s.username), ("tls_mode", .string s.tlsMode.word),
     ("tls_configuration_method", optionalJson (s.tlsMethod.map TlsMethod.word)),
     ("tls_ca_cert_file", optionalJson s.tlsCaCertFile),
     ("tls_client_cert_file", optionalJson s.tlsClientCertFile),
     ("tls_client_key_file", optionalJson s.tlsClientKeyFile),
     ("timeout_secs", .number (.int s.timeout.toNat)),
     ("query_timeout_secs", .number (.int s.queryTimeout.toNat)),
     ("max_open_connections", .number (.int s.maxOpenConnections.toInt)),
     ("max_idle_connections", .number (.int s.maxIdleConnections.toInt)),
     ("max_connection_lifetime_secs", .number (.int s.maxConnectionLifetime.toInt))]

/-- The diagnostic form of settings, without the secrets. -/
def describe (s : Settings) : String :=
  "Settings \x7b server: " ++ Text.quoted s.server ++
    ", port: " ++ Text.intText s.port.toInt ++
    ", username: " ++ Text.quoted s.username ++
    ", password: \"<redacted>\", tls_mode: " ++ s.tlsMode.describe ++
    ", tls_configuration_method: " ++
      (match s.tlsMethod with
       | some m => "Some(" ++ m.describe ++ ")"
       | none => "None") ++
    ", timeout_secs: " ++ Text.natText s.timeout.toNat ++
    ", query_timeout_secs: " ++ Text.natText s.queryTimeout.toNat ++
    ", max_open_connections: " ++ Text.intText s.maxOpenConnections.toInt ++
    ", max_idle_connections: " ++ Text.intText s.maxIdleConnections.toInt ++
    ", max_connection_lifetime_secs: " ++ Text.intText s.maxConnectionLifetime.toInt ++
    ", .. \x7d"

end Settings

end FrameSource
