import CompletionGateway.Association
import CompletionGateway.Numeric.Decimal

/-! The settings of the gateway and what each is unless it is set. -/
namespace CompletionGateway.Settings

structure CompletionSettings where
  requestTimeoutSecs : UInt64
  firstByteTimeoutSecs : UInt64
  maxErrorBodyBytes : UInt64
  deriving DecidableEq, Repr

inductive CacheBackend where
  | redis
  | memory
  | none
  deriving DecidableEq, Repr

structure CacheSettings where
  backend : CacheBackend
  redisUrl : Option String
  ttlSecs : UInt64
  deriving DecidableEq, Repr

inductive RateLimitBackend where
  | redis
  | local
  deriving DecidableEq, Repr

structure RateLimitSettings where
  backend : RateLimitBackend
  redisUrl : Option String
  maxRequests : UInt32
  windowSecs : UInt64
  expiryBufferSecs : UInt64
  exemptPaths : List String
  deriving DecidableEq, Repr

inductive StoreBackend where
  | sqlite
  | postgres
  | memory
  deriving DecidableEq, Repr

structure StoreSettings where
  backend : StoreBackend
  url : String
  deriving DecidableEq, Repr

structure PipelineSettings where
  historyLimit : UInt64
  maxPromptChars : UInt64
  systemPrompt : String
  deriving DecidableEq, Repr

structure GatewaySettings where
  listenPort : UInt16
  host : String
  bodyLimitBytes : UInt64
  corsOrigins : List String
  /-- Callers by bearer token. -/
  tokens : Association String String
  deriving DecidableEq, Repr

/-! ### Names -/

def CacheBackend.name : CacheBackend → String
  | .redis => "redis"
  | .memory => "memory"
  | .none => "none"

def RateLimitBackend.name : RateLimitBackend → String
  | .redis => "redis"
  | .local => "local"

def StoreBackend.name : StoreBackend → String
  | .sqlite => "sqlite"
  | .postgres => "postgres"
  | .memory => "memory"

def CacheBackend.all : List CacheBackend := [.redis, .memory, .none]
def RateLimitBackend.all : List RateLimitBackend := [.redis, .local]
def StoreBackend.all : List StoreBackend := [.sqlite, .postgres, .memory]

/-! ### Defaults -/

def CompletionSettings.standard : CompletionSettings := ⟨60, 30, 65536⟩
def CacheSettings.standard : CacheSettings := ⟨.memory, .none, 3600⟩
def RateLimitSettings.standard : RateLimitSettings := ⟨.local, .none, 60, 60, 1, ["/health"]⟩
def StoreSettings.standard : StoreSettings := ⟨.sqlite, "sqlite://promptgate.db"⟩
def PipelineSettings.standard : PipelineSettings :=
  ⟨20, 32000, "You are a helpful educational AI assistant. Provide clear, accurate, and pedagogically sound responses."⟩
def GatewaySettings.standard : GatewaySettings := ⟨8080, "127.0.0.1", 65536, [], .empty⟩

end CompletionGateway.Settings

namespace CompletionGateway

structure Settings where
  apiKey : Option String
  apiBase : String
  defaultModel : String
  defaultTemperature : Numeric.Binary
  defaultMaxTokens : UInt32
  completion : Settings.CompletionSettings
  cache : Settings.CacheSettings
  rateLimit : Settings.RateLimitSettings
  store : Settings.StoreSettings
  pipeline : Settings.PipelineSettings
  gateway : Settings.GatewaySettings
  deriving DecidableEq, Repr

namespace Settings

def standard : Settings :=
  ⟨none, "https://api.openai.com/v1", "gpt-4o-mini", Numeric.single.ofDecimal false 7 (-1), 2048, .standard,
    .standard, .standard, .standard, .standard, .standard⟩

def hasApiKey (s : Settings) : Bool := s.apiKey.isSome

end Settings
end CompletionGateway
