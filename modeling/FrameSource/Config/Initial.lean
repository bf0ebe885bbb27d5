import FrameSource.Text.Lines

/-!
# The initial configuration file

The text that a new configuration file starts with. It sets what has a default to that default, and a
datasource on the local host.
-/

namespace FrameSource.Config

/-- The lines of the initial configuration file. -/
def initialLines : List String :=
  ["# questframe Configuration",
   "#",
   "# Environment variables override these settings:",
   "# - QUESTFRAME_SERVER",
   "# - QUESTFRAME_PORT",
   "# - QUESTFRAME_USERNAME",
   "# - QUESTFRAME_PASSWORD",
   "# - QUESTFRAME_TLS_MODE",
   "# - QUESTFRAME_LOG_LEVEL",
   "# - QUESTFRAME_LOG_FORMAT",
   "",
   "[datasource]",
   "# QuestDB host serving the Postgres wire protocol",
   "server = \"localhost\"",
   "port = 8812",
   "",
   "username = \"admin\"",
   "# Prefer QUESTFRAME_PASSWORD over storing the password here",
   "password = \"quest\"",
   "",
   "# TLS mode: disable, require, verify-ca, verify-full",
   "tls_mode = \"disable\"",
   "",
   "# Where TLS material comes from: file-content or file-path",
   "# tls_configuration_method = \"file-path\"",
   "# tls_ca_cert_file = \"/etc/questframe/ca.pem\"",
   "# tls_client_cert_file = \"/etc/questframe/client.pem\"",
   "# tls_client_key_file = \"/etc/questframe/client.key\"",
   "",
   "# Connect timeout (seconds)",
   "timeout_secs = 10",
   "",
   "# Query timeout (seconds)",
   "query_timeout_secs = 60",
   "",
   "[decode]",
   "# Columns with unsupported wire types: fail or skip",
   "unknown_columns = \"fail\"",
   "",
   "[logging]",
   "# Log level: trace, debug, info, warn, error",
   "level = \"info\"",
   "",
   "# Log format: pretty (for development) or json (for production)",
   "format = \"pretty\"",
   "",
   "# Optional log file path",
   "# file = \"/var/log/questframe/questframe.log\""]

/-- The initial configuration file. -/
def initialText : String :=
  Text.unlines initialLines

end FrameSource.Config
