import CompletionGateway.Settings.Basic

/-! Settings written as a document to start from. Keys that are not set are left out, and the temperature is
written as the double that a single-precision number is. -/
namespace CompletionGateway.Settings

/-- A text between quotes; the texts of the default settings need no escapes. -/
def inQuotes (s : String) : String := "\"" ++ s ++ "\""

def entry (key value : String) : String := key ++ " = " ++ value ++ "\n"
def textEntry (key value : String) : String := entry key (inQuotes value)
def natEntry (key : String) (n : Nat) : String := entry key (toString n)
def textsEntry (key : String) (ss : List String) : String :=
  entry key ("[" ++ String.intercalate ", " (ss.map inQuotes) ++ "]")
def heading (name : String) : String := "\n[" ++ name ++ "]\n"
def optionalEntry (key : String) : Option String → String
  | some s => textEntry key s
  | none => ""

def realText (b : Numeric.Binary) : String := (Numeric.double.convert b).plainText Numeric.double

def template (s : Settings) : String := String.join [
  optionalEntry "api_key" s.apiKey, textEntry "api_base" s.apiBase, textEntry "default_model" s.defaultModel,
  entry "default_temperature" (realText s.defaultTemperature),
  natEntry "default_max_tokens" s.defaultMaxTokens.toNat,
  heading "completion", natEntry "request_timeout_secs" s.completion.requestTimeoutSecs.toNat,
  natEntry "first_byte_timeout_secs" s.completion.firstByteTimeoutSecs.toNat,
  natEntry "max_error_body_bytes" s.completion.maxErrorBodyBytes.toNat,
  heading "cache", textEntry "backend" s.cache.backend.name, optionalEntry "redis_url" s.cache.redisUrl,
  natEntry "ttl_secs" s.cache.ttlSecs.toNat,
  heading "rate_limit", textEntry "backend" s.rateLimit.backend.name,
  optionalEntry "redis_url" s.rateLimit.redisUrl, natEntry "max_requests" s.rateLimit.maxRequests.toNat,
  natEntry "window_secs" s.rateLimit.windowSecs.toNat,
  natEntry "expiry_buffer_secs" s.rateLimit.expiryBufferSecs.toNat,
  textsEntry "exempt_paths" s.rateLimit.exemptPaths,
  heading "store", textEntry "backend" s.store.backend.name, textEntry "url" s.store.url,
  heading "pipeline", natEntry "history_limit" s.pipeline.historyLimit.toNat,
  natEntry "max_prompt_chars" s.pipeline.maxPromptChars.toNat, textEntry "system_prompt" s.pipeline.systemPrompt,
  heading "gateway", natEntry "port" s.gateway.listenPort.toNat, textEntry "host" s.gateway.host,
  natEntry "body_limit_bytes" s.gateway.bodyLimitBytes.toNat, textsEntry "cors_origins" s.gateway.corsOrigins,
  heading "gateway.tokens", String.join (s.gateway.tokens.entries.map fun e => textEntry e.1 e.2)]

/-- The document of the default settings. -/
def defaultDocument : String := Settings.standard.template

end CompletionGateway.Settings
