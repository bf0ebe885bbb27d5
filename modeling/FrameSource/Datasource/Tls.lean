/-!
# Transport security

How far a connection is secured, and where its certificates come from.
-/

namespace FrameSource

/-- How far a connection is secured. -/
inductive TlsMode where
  | disable
  | require
  | verifyCa
  | verifyFull
deriving DecidableEq, Repr

namespace TlsMode

/-- The word for a mode. -/
def word : TlsMode → String
  | .disable => "disable"
  | .require => "require"
  | .verifyCa => "verify-ca"
  | .verifyFull => "verify-full"

/-- The mode that a word stands for. -/
def ofWord? (s : String) : Option TlsMode :=
  if s = "disable" then some .disable
  else if s = "require" then some .require
  else if s = "verify-ca" then some .verifyCa
  else if s = "verify-full" then some .verifyFull
  else none

/-- The diagnostic form of a mode. -/
def describe : TlsMode → String
  | .disable => "Disable"
  | .require => "Require"
  | .verifyCa => "VerifyCa"
  | .verifyFull => "VerifyFull"

theorem ofWord?_word (m : TlsMode) : ofWord? m.word = some m := by
  cases m <;> decide

theorem word_ne_empty (m : TlsMode) : m.word ≠ "" := by
  cases m <;> decide

end TlsMode

/-- Where certificates come from. -/
inductive TlsMethod where
  /-- They are held among the secrets. -/
  | fileContent
  /-- They are in files that the connection layer reads. -/
  | filePath
deriving DecidableEq, Repr

namespace TlsMethod

/-- The word for a method. -/
def word : TlsMethod → String
  | .fileContent => "file-content"
  | .filePath => "file-path"

/-- The method that a word stands for. -/
def ofWord? (s : String) : Option TlsMethod :=
  if s = "file-content" then some .fileContent
  else if s = "file-path" then some .filePath
  else none

/-- The diagnostic form of a method. -/
def describe : TlsMethod → String
  | .fileContent => "FileContent"
  | .filePath => "FilePath"

theorem ofWord?_word (m : TlsMethod) : ofWord? m.word = some m := by
  cases m <;> decide

theorem word_ne_empty (m : TlsMethod) : m.word ≠ "" := by
  cases m <;> decide

end TlsMethod

end FrameSource
