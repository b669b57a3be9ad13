import CompletionGateway.Settings.Basic
import CompletionGateway.Settings.Failure
import CompletionGateway.Text.Blank

/-! Settings from the environment, which come before those of a file. Each variable is applied in turn; the
first that cannot be read stops the rest, but not those before it. -/
namespace CompletionGateway.Settings

-- Powers are those of the core library, whatever else is imported.
attribute [local instance (2000)] instPowNat

/-- The variables that are set. -/
abbrev Environment := String → Option String

def digitsValue? (bound : Nat) (cs : List Char) : Option Nat :=
  if cs.isEmpty || !cs.all Char.isDigit then none
  else
    let n := cs.foldl (fun n c => n * 10 + (c.toNat - 48)) 0
    if n < bound then some n else none

/-- A natural number below a bound, with a plus sign or without, in any white space. -/
def number? (bound : Nat) (s : String) : Option Nat :=
  match (Text.trim s).toList with
  | '+' :: cs => digitsValue? bound cs
  | cs => digitsValue? bound cs

def invalidVariable (name value : String) : SettingsError :=
  .invalid (name ++ ": invalid value '" ++ value ++ "'")

/-! ### One variable at a time -/

/-- The first of the three variables that is set. -/
def apiKeyOf (env : Environment) : Option String :=
  (env "PROMPTGATE_API_KEY").or ((env "LLM_API_KEY").or (env "OPENAI_API_KEY"))

def setApiKey (s : Settings) (key : String) : Settings := { s with apiKey := some key }
def setApiBase (s : Settings) (base : String) : Settings := { s with apiBase := base }
def setModel (s : Settings) (model : String) : Settings := { s with defaultModel := model }

/-- One server is used for cache and rate limit. -/
def setRedisUrl (s : Settings) (url : String) : Settings :=
  { s with
    cache := { s.cache with redisUrl := some url }
    rateLimit := { s.rateLimit with redisUrl := some url } }

def startsWith (s t : String) : Bool := t.toList.isPrefixOf s.toList

/-- The backend that the scheme of a database address asks for. -/
def backendOfUrl? (url : String) : Option StoreBackend :=
  if startsWith url "postgres://" || startsWith url "postgresql://" then some .postgres
  else if startsWith url "sqlite:" then some .sqlite
  else none

/-- A database address also selects the backend, if its scheme is known. -/
def setDatabaseUrl (s : Settings) (url : String) : Settings :=
  { s with store := ⟨(backendOfUrl? url).getD s.store.backend, url⟩ }

def setListenPort (s : Settings) (n : Nat) : Settings := { s with gateway := { s.gateway with listenPort := UInt16.ofNat n } }

def setMaxRequests (s : Settings) (n : Nat) : Settings :=
  { s with rateLimit := { s.rateLimit with maxRequests := UInt32.ofNat n } }

def setCacheTtl (s : Settings) (n : Nat) : Settings :=
  { s with cache := { s.cache with ttlSecs := UInt64.ofNat n } }

/-! ### All variables -/

/-- The settings so far, and the failure that stopped there if one did. -/
abbrev Overlay := Settings × Option SettingsError

def overText (value : Option String) (set : Settings → String → Settings) (o : Overlay) : Overlay :=
  match o.2, value with
  | none, some v => (set o.1 v, none)
  | _, _ => o

def overNumber (env : Environment) (name : String) (bound : Nat) (set : Settings → Nat → Settings)
    (o : Overlay) : Overlay :=
  match o.2, env name with
  | none, some v =>
    match number? bound v with
    | some n => (set o.1 n, none)
    | none => (o.1, some (invalidVariable name v))
  | _, _ => o

def applyEnvironment (env : Environment) (s : Settings) : Overlay :=
  let o := overText (apiKeyOf env) setApiKey (s, none)
  let o := overText (env "LLM_API_BASE") setApiBase o
  let o := overText (env "LLM_MODEL") setModel o
  let o := overText (env "REDIS_URL") setRedisUrl o
  let o := overText (env "DATABASE_URL") setDatabaseUrl o
  let o := overNumber env "SERVER_PORT" (2 ^ (16 : Nat)) setListenPort o
  let o := overNumber env "RATE_LIMIT_RPM" (2 ^ (32 : Nat)) setMaxRequests o
  overNumber env "CACHE_TTL_SECONDS" (2 ^ (64 : Nat)) setCacheTtl o

end CompletionGateway.Settings
