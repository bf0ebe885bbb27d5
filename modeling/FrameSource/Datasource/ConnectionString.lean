import FrameSource.Datasource.Settings

/-!
# Connection strings

A connection is described to the client library as a list of parameters, `key=value` with a blank
between them. Text values stand in apostrophes, where a backslash comes before every apostrophe and
backslash; numbers and switches stand bare.
-/

namespace FrameSource

/-- The version that the program reports. -/
def productVersion : String := "0.1.0"

/-- Why a connection could not be described. -/
inductive ConnectionError where
  /-- Of a client's certificate and key only one is given. -/
  | incompleteClientCertificate
deriving DecidableEq, Repr

/-- The wording of a connection error. -/
def ConnectionError.message : ConnectionError → String
  | .incompleteClientCertificate =>
    "TLS/SSL client certificate and key must both be specified"

/-- The name under which a client reports itself, after the version of its host if that is known. -/
def clientVersion (hostVersion : Option String) : String :=
  let own := "questframe:" ++ productVersion
  match hostVersion with
  | some version => if version.isEmpty then own else "grafana:" ++ version ++ ";" ++ own
  | none => own

/-- The value of a parameter. -/
inductive ParameterValue where
  | quoted (s : String)
  | bare (s : String)
deriving DecidableEq, Repr

/-- A parameter of a connection. -/
structure Parameter where
  key : String
  value : ParameterValue
deriving DecidableEq, Repr

namespace Parameter

/-- A text with every occurrence of a character replaced. -/
def replace (c : Char) (written : List Char) (text : List Char) : List Char :=
  text.flatMap fun d => if d = c then written else [d]

/-- A text between apostrophes. Backslashes come first, so that the ones that are put in front of
apostrophes are not doubled. -/
def escape (text : List Char) : List Char :=
  replace '\'' ['\\', '\''] (replace '\\' ['\\', '\\'] text)

/-- A value as it stands after the equals sign. -/
def writeValue : ParameterValue → List Char
  | .quoted s => ['\''] ++ escape s.toList ++ ['\'']
  | .bare s => s.toList

/-- A parameter. -/
def write (p : Parameter) : List Char :=
  p.key.toList ++ ['='] ++ writeValue p.value

/-- Parameters with a blank between them. -/
def writeAll : List Parameter → List Char
  | [] => []
  | [p] => p.write
  | p :: ps => p.write ++ [' '] ++ writeAll ps

/-- A text parameter. -/
def text (key value : String) : Parameter := ⟨key, .quoted value⟩

/-- A parameter without apostrophes. -/
def plain (key value : String) : Parameter := ⟨key, .bare value⟩

end Parameter

/-- A text that is given and not empty. -/
def given (s : Option String) : Option String :=
  s.filter fun s => !s.isEmpty

/-- The certificates of a connection, wherever they come from: the root certificate, and the client's
certificate and key. -/
structure Certificates where
  root : Option String
  client : Option String
  key : Option String
deriving DecidableEq, Repr

namespace Certificates

/-- The parameters for the certificates that are given. A client's certificate and key go together. -/
def parameters (c : Certificates) : Except ConnectionError (List Parameter) :=
  let root := ((given c.root).map (Parameter.text "sslrootcert")).toList
  match given c.client, given c.key with
  | some cert, some key => .ok (root ++ [.text "sslcert" cert, .text "sslkey" key])
  | none, none => .ok root
  | _, _ => .error .incompleteClientCertificate

end Certificates

namespace Settings

/-- The name of the database, of which there is only one. -/
def databaseName : String := "qdb"

/-- The certificates that are held in the settings. -/
def heldCertificates (s : Settings) : Certificates :=
  ⟨s.tlsCaCert, s.tlsClientCert, s.tlsClientKey⟩

/-- The files that hold certificates. -/
def certificateFiles (s : Settings) : Certificates :=
  ⟨s.tlsCaCertFile, s.tlsClientCertFile, s.tlsClientKeyFile⟩

/-- The parameters of a secured connection that depend on where its certificates come from. -/
def tlsParameters (s : Settings) : Except ConnectionError (List Parameter) :=
  if s.tlsMode = .disable then .ok []
  else
    match s.tlsMethod with
    | none => .ok []
    | some .fileContent =>
      s.heldCertificates.parameters.map (Parameter.plain "sslinline" "true" :: ·)
    | some .filePath => s.certificateFiles.parameters

/-- The parameters that every connection has, under the name of an application. -/
def baseParameters (s : Settings) (application : String) : List Parameter :=
  [.text "user" s.username, .text "password" s.password, .text "host" s.server,
    .text "dbname" databaseName] ++
  (if 0 < s.port.toInt then [.plain "port" (Text.intText s.port.toInt)] else []) ++
  (if application.isEmpty then [] else [.text "application_name" application]) ++
  (if 0 < s.timeout.toNat then [.plain "connect_timeout" (Text.natText s.timeout.toNat)]
   else []) ++
  [.text "sslmode" s.tlsMode.word]

/-- The parameters of a connection under the name of an application. -/
def parameters (s : Settings) (application : String) :
    Except ConnectionError (List Parameter) :=
  s.tlsParameters.map (s.baseParameters application ++ ·)

/-- The connection string under the name of an application. -/
def connectionString (s : Settings) (application : String) : Except ConnectionError String :=
  (s.parameters application).map fun ps => String.ofList (Parameter.writeAll ps)

end Settings

end FrameSource
