/-!
What can be wrong with settings.
-/

namespace CubeQuery

inductive SettingsError where
  | fileNotFound (path : String)
  | unreadable (reason : String)
  | unparsable
  | missingVariable (name : String)
  | unsupportedDialect (name : String)
  | noConcurrency
  | noCacheEntries
deriving DecidableEq

namespace SettingsError

def kind : SettingsError → String
  | .fileNotFound _ => "FileNotFound"
  | .unreadable _ => "ReadError"
  | .unparsable => "ParseError"
  | .missingVariable _ => "MissingEnvVar"
  | .unsupportedDialect _ => "UnsupportedDialect"
  | .noConcurrency | .noCacheEntries => "InvalidConfig"

def message : SettingsError → String
  | .fileNotFound path => "Config file not found: " ++ path
  | .unreadable reason => "Failed to read config file: " ++ reason
  | .unparsable => "Failed to parse config file"
  | .missingVariable name => "Missing environment variable: " ++ name
  | .unsupportedDialect name => "Unsupported dialect: " ++ name
  | .noConcurrency => "Invalid configuration: executor.max_concurrent_scopes must be at least 1"
  | .noCacheEntries =>
    "Invalid configuration: cache.max_entries must be at least 1 when the cache is enabled"

end SettingsError

end CubeQuery
