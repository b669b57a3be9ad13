import CompletionGateway.Json.Value
import CompletionGateway.Settings.Basic

/-! Settings in JSON. Absent options are not written, and the temperature is written as a text. -/
namespace CompletionGateway.Settings
open Json

def ofWord (n : UInt64) : Json := .nat n.toNat
def ofTexts (ss : List String) : Json := .array (ss.map .string)

def CompletionSettings.toJson (s : CompletionSettings) : Json :=
  .object [("request_timeout_secs", ofWord s.requestTimeoutSecs),
    ("first_byte_timeout_secs", ofWord s.firstByteTimeoutSecs),
    ("max_error_body_bytes", ofWord s.maxErrorBodyBytes)]

def CacheSettings.toJson (s : CacheSettings) : Json :=
  .object ([("backend", .string s.backend.name)] ++ field? "redis_url" .string s.redisUrl ++
    [("ttl_secs", ofWord s.ttlSecs)])

def RateLimitSettings.toJson (s : RateLimitSettings) : Json :=
  .object ([("backend", .string s.backend.name)] ++ field? "redis_url" .string s.redisUrl ++
    [("max_requests", .nat s.maxRequests.toNat), ("window_secs", ofWord s.windowSecs),
      ("expiry_buffer_secs", ofWord s.expiryBufferSecs), ("exempt_paths", ofTexts s.exemptPaths)])

def StoreSettings.toJson (s : StoreSettings) : Json :=
  .object [("backend", .string s.backend.name), ("url", .string s.url)]

def PipelineSettings.toJson (s : PipelineSettings) : Json :=
  .object [("history_limit", ofWord s.historyLimit), ("max_prompt_chars", ofWord s.maxPromptChars),
    ("system_prompt", .string s.systemPrompt)]

def GatewaySettings.toJson (s : GatewaySettings) : Json :=
  .object [("port", .nat s.listenPort.toNat), ("host", .string s.host), ("body_limit_bytes", ofWord s.bodyLimitBytes),
    ("cors_origins", ofTexts s.corsOrigins),
    ("tokens", .object (s.tokens.entries.map fun e => (e.1, .string e.2)))]

def toJson (s : Settings) : Json :=
  .object (field? "api_key" .string s.apiKey ++ [("api_base", .string s.apiBase),
    ("default_model", .string s.defaultModel),
    ("default_temperature", .string (s.defaultTemperature.plainText Numeric.single)),
    ("default_max_tokens", .nat s.defaultMaxTokens.toNat), ("completion", s.completion.toJson),
    ("cache", s.cache.toJson), ("rate_limit", s.rateLimit.toJson), ("store", s.store.toJson),
    ("pipeline", s.pipeline.toJson), ("gateway", s.gateway.toJson)])

end CompletionGateway.Settings
