/-! Why settings cannot be used. -/
namespace CompletionGateway.Settings

inductive SettingsError where
  | unreadable (path reason : String)
  | malformed (path reason : String)
  | invalid (reason : String)
  deriving DecidableEq, Repr

def SettingsError.message : SettingsError → String
  | .unreadable path reason => "Failed to read config file at " ++ path ++ ": " ++ reason
  | .malformed path reason => "Failed to parse config file at " ++ path ++ ": " ++ reason
  | .invalid reason => "Configuration validation failed: " ++ reason

end CompletionGateway.Settings
