import CompletionGateway.CommandLine.Help
import CompletionGateway.Gateway.Opening
import CompletionGateway.Settings.Load
import CompletionGateway.Settings.Template

/-! What the commands print, and the status they exit with. -/
namespace CompletionGateway.CommandLine
open Settings

/-- What the commands find around them. -/
structure Surroundings where
  environment : Environment
  file : String → FileState
  directoryExists : String → Bool
  /-- The completion backend. -/
  exchange : BackendRequest → Exchange
  /-- Whether the gateway can listen at an address, and then comes to a regular end. -/
  listens : String → UInt16 → Bool

/-- What a command leaves behind. -/
structure Outcome where
  status : Nat
  output : String
  deriving DecidableEq, Repr

/-! ### Paths -/

/-- A path inside a directory. -/
def joinPath (directory name : String) : String :=
  if directory.isEmpty then name
  else if directory.toList.getLast? = some '/' then directory ++ name
  else directory ++ "/" ++ name

def home (env : Environment) : String := (env "HOME").getD "/tmp"
def defaultPath (env : Environment) : String := joinPath (joinPath (home env) ".promptgate") "config.toml"

def loadAt (w : Surroundings) (path : Option String) : Except SettingsError Settings :=
  let path := path.getD (defaultPath w.environment)
  load path (w.file path) w.environment

/-! ### Commands -/

def validateConfig (w : Surroundings) (path : Option String) : Outcome :=
  let opening := "Validating configuration...\n"
  match loadAt w path with
  | .ok s =>
    ⟨0, String.join [opening, "   ✅ Config parsed and validated\n",
      if s.hasApiKey then "" else "   ⚠️  No API key set (set PROMPTGATE_API_KEY or OPENAI_API_KEY)\n",
      if s.gateway.tokens.size = 0 then
        "   ⚠️  No bearer tokens in [gateway.tokens]; every API call will be rejected\n"
      else "",
      "\n", s.blockReport, "\n"]⟩
  | .error e => ⟨1, opening ++ "   ❌ Config error: " ++ e.message ++ "\n"⟩

/-- A finding of the doctor, and whether it is an issue. -/
structure Finding where
  issue : Bool
  line : String
  deriving DecidableEq, Repr

def Finding.good (s : String) : Finding := ⟨false, "  ✅ " ++ s ++ "\n"⟩
def Finding.off (s : String) : Finding := ⟨false, "  ➖ " ++ s ++ "\n"⟩
def Finding.warning (s : String) : Finding := ⟨true, "  ⚠️  " ++ s ++ "\n"⟩
def Finding.bad (s : String) : Finding := ⟨true, "  ❌ " ++ s ++ "\n"⟩

def storeFinding (w : Surroundings) (s : Settings) : Finding :=
  match Gateway.openStore w.directoryExists s.store with
  | .ok store =>
    match store.ping with
    | .ok () => .good ("Store reachable (" ++ store.name ++ ")")
    | .error e => .bad ("Store ping failed: " ++ e.message)
  | .error e => .bad ("Store unavailable: " ++ e.message)

def cacheFinding (s : Settings) : Finding :=
  let cache := Gateway.openCache s.cache
  match cache.health with
  | .up => .good ("Cache reachable (" ++ cache.name ++ ")")
  | .disabled => .off "Cache disabled"
  | .down => .warning "Cache unreachable, requests will run uncached"

def backendFinding (w : Surroundings) (s : Settings) : Finding :=
  let client := Gateway.clientOf s
  match client.healthy (w.exchange client.healthRequest) with
  | .ok true => .good ("Completion backend reachable (" ++ client.baseUrl ++ ")")
  | .ok false => .warning "Completion backend answered but is not healthy"
  | .error e => .bad ("Completion backend unreachable: " ++ e.message)

def findings (w : Surroundings) (s : Settings) : List Finding :=
  [if s.hasApiKey then .good "API key configured" else .warning "No API key configured",
    if s.gateway.tokens.size = 0 then .warning "No bearer tokens configured"
    else .good (toString s.gateway.tokens.size ++ " bearer token(s) configured"),
    storeFinding w s, cacheFinding s, backendFinding w s]

def doctor (w : Surroundings) (path : Option String) : Outcome :=
  let opening := "promptgate doctor\n=================\n\n"
  match loadAt w path with
  | .error e => ⟨1, opening ++ (Finding.bad ("Config invalid: " ++ e.message)).line⟩
  | .ok s =>
    let found := findings w s
    let issues := (found.filter (·.issue)).length
    ⟨0, String.join ([opening, (Finding.good "Config valid").line] ++ found.map (·.line) ++ ["\n",
      if issues = 0 then "  All checks passed.\n"
      else "  " ++ toString issues ++ " issue(s) found. See above for details.\n"])⟩

/-- The lines that the gateway prints when it starts. -/
def banner (s : Settings) : String := lines [
  "promptgate " ++ Gateway.version,
  "   Listening:  " ++ s.gateway.host ++ ":" ++ toString s.gateway.listenPort.toNat,
  "   Model:      " ++ s.defaultModel,
  "   Store:      " ++ s.store.backend.title,
  "   Cache:      " ++ s.cache.backend.title,
  "   Rate limit: " ++ toString s.rateLimit.maxRequests.toNat ++ " req / " ++
    toString s.rateLimit.windowSecs.toNat ++ "s (" ++ s.rateLimit.backend.title ++ ")"]

def serve (w : Surroundings) (path : Option String) (listenPort : Option UInt16) : Outcome :=
  match loadAt w path with
  | .error _ => ⟨1, ""⟩
  | .ok s =>
    let s := match listenPort with
      | some p => setListenPort s p.toNat
      | none => s
    let runs := (Gateway.openStore w.directoryExists s.store).isOk && w.listens s.gateway.host s.gateway.listenPort
    ⟨if runs then 0 else 1, banner s⟩

def runCommand (w : Surroundings) (path : Option String) : Command → Outcome
  | .serve listenPort => serve w path listenPort
  | .config .default => ⟨0, defaultDocument⟩
  | .config .validate => validateConfig w path
  | .config .path => ⟨0, defaultPath w.environment ++ "\n"⟩
  | .doctor => doctor w path

/-- Run the command that the arguments give. -/
def run (w : Surroundings) (args : List String) : Outcome :=
  let named := w.environment "PROMPTGATE_CONFIG"
  match parse args named with
  | .usageError => ⟨2, ""⟩
  | .version => ⟨0, "promptgate " ++ Gateway.version ++ "\n"⟩
  | .help topic => ⟨0, helpText named topic⟩
  | .run command path => runCommand w path command

end CompletionGateway.CommandLine
