import CompletionGateway.CommandLine.Commands

/-! The command itself. It reads the file and the environment that the commands need and has no network: the
completion backend cannot be reached, and the gateway cannot listen. -/
namespace CompletionGateway.Main
open CommandLine Settings

/-- The variables that any command looks at. -/
def variableNames : List String :=
  ["PROMPTGATE_CONFIG", "HOME", "PROMPTGATE_API_KEY", "LLM_API_KEY", "OPENAI_API_KEY", "LLM_API_BASE", "LLM_MODEL",
    "REDIS_URL", "DATABASE_URL", "SERVER_PORT", "RATE_LIMIT_RPM", "CACHE_TTL_SECONDS"]

def readEnvironment : IO Environment := do
  let mut found : List (String × String) := []
  for name in variableNames do
    match ← IO.getEnv name with
    | some value => found := (name, value) :: found
    | none => pure ()
  let held := found
  return fun name => (held.find? (·.1 = name)).map (·.2)

def readFile (path : String) : IO FileState := do
  try
    let bytes ← IO.FS.readBinFile path
    return .content bytes.toList
  catch
    | .noFileOrDirectory .. => return .absent
    | _ => return .directory

/-- The file that the arguments and the environment lead to. -/
def pathOf (env : Environment) (args : List String) : String :=
  match parse args (env "PROMPTGATE_CONFIG") with
  | .run _ (some path) => path
  | _ => defaultPath env

end CompletionGateway.Main

open CompletionGateway CompletionGateway.Main in
def main (args : List String) : IO UInt32 := do
  let env ← readEnvironment
  let file ← readFile (pathOf env args)
  let outcome := CommandLine.run
    ⟨env, fun _ => file, fun _ => true, fun _ => .unreachable "no network", fun _ _ => false⟩ args
  IO.print outcome.output
  return UInt32.ofNat outcome.status
