import CompletionGateway.Admission.SharedWindow
import CompletionGateway.Completion.Client
import CompletionGateway.Gateway.Service
import CompletionGateway.Settings.Report
import CompletionGateway.Store.Conversations

/-! Collaborators as the settings name them. A cache or shared window server that cannot be reached degrades the
service; a store that cannot be opened is a failure. -/
namespace CompletionGateway.Gateway
open Settings

def nanosOfSecs (secs : UInt64) : Nat := secs.toNat * 1000000000

/-! ### Cache and admission -/

/-- The cache that is selected, no shared server being within reach. -/
def openCache (s : CacheSettings) : Cache.KeyValue :=
  match s.backend with
  | .none => .disabled
  | .memory => .memory (.empty Cache.ExpiringMap.defaultCapacity)
  | .redis => .unreachable "Cache unavailable: Redis connection failed"

def policyOf (s : RateLimitSettings) : Admission.Policy := ⟨s.maxRequests, nanosOfSecs s.windowSecs⟩

/-- The window that is shared through a server, where one is within reach. -/
def sharedWindowOf (s : RateLimitSettings) : Admission.SharedWindow := ⟨nanosOfSecs s.expiryBufferSecs, 0⟩

/-! ### Store -/

/-- Where a database is kept. -/
inductive Location where
  | inMemory
  | file (path : String)
  deriving DecidableEq, Repr

/-- Text without as many copies of a front part as it begins with. -/
def dropFront (front : List Char) : Nat → List Char → List Char
  | 0, cs => cs
  | n + 1, cs => if front.isPrefixOf cs then dropFront front n (cs.drop front.length) else cs

/-- One parameter of a database address. The flag tells whether it puts the database into memory. -/
def locationParameter (name value : String) : Except StoreError Bool :=
  let refused := Except.error (StoreError.storage "Invalid SQLite path")
  if name = "mode" then
    if value = "memory" then .ok true
    else if value = "ro" then .error (.storage "Failed to open SQLite")
    else if value = "rw" || value = "rwc" then .ok false
    else refused
  else if name = "cache" then if value = "private" || value = "shared" then .ok false else refused
  else if name = "immutable" then
    if ["true", "1", "false", "0"].contains value then .ok false else refused
  else refused

/-- The location of an address, with its scheme or without. -/
def locate (url : String) : Except StoreError Location :=
  let cs := url.toList
  let cs := dropFront "sqlite://".toList cs.length cs
  let cs := dropFront "sqlite:".toList cs.length cs
  let database := cs.takeWhile (· != '?')
  let fields := Http.queryFields (String.ofList ((cs.dropWhile (· != '?')).drop 1))
  match fields.mapM fun f => locationParameter f.1 f.2 with
  | .error e => .error e
  | .ok inMemory =>
    if database = ":memory:".toList || inMemory.any id then .ok .inMemory
    else
      match Text.Utf8.decode? (Http.percentDecode (Text.utf8 (String.ofList database))) with
      | some path => .ok (.file path)
      | none => .error (.storage "Invalid SQLite path")

/-- The directory part of a path, empty for a path without one. -/
def directoryOf (path : String) : String :=
  String.ofList ((path.toList.reverse.dropWhile (· != '/')).drop 1).reverse

/-- Open the store that is selected, with empty tables. -/
def openStore (directoryExists : String → Bool) (s : StoreSettings) : Except StoreError Store.Conversations :=
  match s.backend with
  | .memory => .ok (.memory .empty)
  | .sqlite =>
    match locate s.url with
    | .error e => .error e
    | .ok .inMemory => .ok (.relational .empty)
    | .ok (.file path) =>
      if !path.toList.contains '/' || directoryExists (directoryOf path) then .ok (.relational .empty)
      else .error (.storage "Failed to open SQLite")
  | b => .error (.storage ("store backend " ++ b.title ++ " not compiled in (enable the matching feature)"))

/-! ### The service -/

def clientOf (s : Settings) : Client :=
  .new "openai" s.apiBase (s.apiKey.getD "") ⟨nanosOfSecs s.completion.requestTimeoutSecs,
    nanosOfSecs s.completion.firstByteTimeoutSecs, s.completion.maxErrorBodyBytes.toNat⟩

def orchestratorOf (s : Settings) : Orchestrator :=
  ⟨.systemPrompt s.pipeline.systemPrompt, s.pipeline.historyLimit.toNat, s.pipeline.maxPromptChars.toNat,
    ⟨s.defaultModel, s.defaultTemperature, s.defaultMaxTokens⟩, nanosOfSecs s.cache.ttlSecs⟩

def serviceOf (s : Settings) : Service :=
  ⟨orchestratorOf s, s.cache.backend ≠ .none, policyOf s.rateLimit, s.gateway.tokens, s.rateLimit.exemptPaths,
    s.gateway.bodyLimitBytes.toNat, s.gateway.corsOrigins⟩

end CompletionGateway.Gateway
