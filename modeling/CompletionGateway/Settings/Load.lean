import CompletionGateway.Settings.Environment
import CompletionGateway.Settings.Reader
import CompletionGateway.Settings.Validation
import CompletionGateway.Text.Utf8
import CompletionGateway.Toml.Parser

/-! Loading settings: the file on its own, then the environment over it, then all of it once more. -/
namespace CompletionGateway.Settings

/-- What stands at a path. -/
inductive FileState where
  | absent
  | directory
  | content (bytes : List UInt8)
  deriving DecidableEq, Repr

/-- The settings in the text of a document, not validated. -/
def ofText? (s : String) : Option Settings := (Toml.parse? s).bind read

/-- The settings of a file, which must be valid by themselves. Without a file everything has its default. -/
def loadFile (path : String) : FileState → Except SettingsError Settings
  | .absent => .ok .standard
  | .directory => .error (.unreadable path "Is a directory (os error 21)")
  | .content bytes =>
    match Text.Utf8.decode? bytes with
    | none => .error (.unreadable path "stream did not contain valid UTF-8")
    | some s =>
      match ofText? s with
      | none => .error (.malformed path "invalid document")
      | some settings =>
        match settings.validate with
        | .ok () => .ok settings
        | .error e => .error e

/-- The settings of a file with the environment over them. -/
def load (path : String) (file : FileState) (env : Environment) : Except SettingsError Settings :=
  match loadFile path file with
  | .error e => .error e
  | .ok s =>
    match applyEnvironment env s with
    | (_, some e) => .error e
    | (s, none) =>
      match s.validate with
      | .ok () => .ok s
      | .error e => .error e

end CompletionGateway.Settings
