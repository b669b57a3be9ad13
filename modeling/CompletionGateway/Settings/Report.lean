import CompletionGateway.Settings.Basic
import CompletionGateway.Text.Quoted

/-! Settings as a report shows them, on one line or indented. Keys and tokens are not shown, and neither is
the user information of an address. -/
namespace CompletionGateway.Settings

/-! ### Reports -/

inductive Shown where
  | atom (text : String)
  | present (inner : Shown)
  | list (items : List Shown)
  | record (name : String) (fields : List (String × Shown))

namespace Shown

mutual

/-- On one line. -/
def line : Shown → String
  | .atom s => s
  | .present x => "Some(" ++ line x ++ ")"
  | .list [] => "[]"
  | .list (x :: xs) => "[" ++ line x ++ lineItems xs ++ "]"
  | .record name [] => name
  | .record name ((k, x) :: fs) => name ++ " \x7b " ++ k ++ ": " ++ line x ++ lineFields fs ++ " \x7d"

def lineItems : List Shown → String
  | [] => ""
  | x :: xs => ", " ++ line x ++ lineItems xs

def lineFields : List (String × Shown) → String
  | [] => ""
  | (k, x) :: fs => ", " ++ k ++ ": " ++ line x ++ lineFields fs

end

def indent (depth : Nat) : String := String.ofList (List.replicate (4 * depth) ' ')

mutual

/-- With a line for each item and field, indented by so many steps. -/
def block (depth : Nat) : Shown → String
  | .atom s => s
  | .present x => "Some(\n" ++ indent (depth + 1) ++ block (depth + 1) x ++ ",\n" ++ indent depth ++ ")"
  | .list [] => "[]"
  | .list (x :: xs) => "[\n" ++ blockItems (depth + 1) (x :: xs) ++ indent depth ++ "]"
  | .record name [] => name
  | .record name (f :: fs) => name ++ " \x7b\n" ++ blockFields (depth + 1) (f :: fs) ++ indent depth ++ "\x7d"

def blockItems (depth : Nat) : List Shown → String
  | [] => ""
  | x :: xs => indent depth ++ block depth x ++ ",\n" ++ blockItems depth xs

def blockFields (depth : Nat) : List (String × Shown) → String
  | [] => ""
  | (k, x) :: fs => indent depth ++ k ++ ": " ++ block depth x ++ ",\n" ++ blockFields depth fs

end

def ofText (s : String) : Shown := .atom (Text.quoted s)
def ofNat (n : Nat) : Shown := .atom (toString n)
def ofTexts (ss : List String) : Shown := .list (ss.map ofText)

def ofOption : Option String → Shown
  | some s => .present (ofText s)
  | none => .atom "None"

/-- Numbers are written positionally from 0.0001 to below 10 ^ 16. -/
def layout : Numeric.Layout := ⟨-4, 15, .up, false⟩

def ofSingle : Numeric.Binary → Shown
  | .nan => .atom "NaN"
  | .infinite s => .atom (Numeric.signText s ++ "inf")
  | .finite s 0 _ => .atom (Numeric.signText s ++ "0.0")
  | .finite s m e => .atom (Numeric.signText s ++ layout.text Numeric.single m e)

end Shown

/-! ### What is kept secret -/

/-- A set key is replaced by a mark, and an unset one is called so. -/
def redact : Option String → String
  | some _ => "[REDACTED]"
  | none => "None"

/-- What stands before the first occurrence of a pattern. -/
def before? (pattern : List Char) : List Char → Option (List Char)
  | [] => if pattern.isEmpty then some [] else none
  | c :: cs => if pattern.isPrefixOf (c :: cs) then some [] else (before? pattern cs).map (c :: ·)

/-- An address without its user information, which ends at the last `@` and starts behind the first `://`. -/
def redactUrl (url : String) : String :=
  let cs := url.toList
  match before? [':', '/', '/'] cs with
  | none => url
  | some scheme =>
    let rest := (cs.reverse.takeWhile (· != '@')).reverse
    if rest.length < cs.length ∧ scheme.length + 1 + rest.length < cs.length then
      String.ofList (scheme ++ "://[REDACTED]@".toList ++ rest)
    else url

/-! ### Settings -/

def CacheBackend.title : CacheBackend → String
  | .redis => "Redis"
  | .memory => "Memory"
  | .none => "None"

def RateLimitBackend.title : RateLimitBackend → String
  | .redis => "Redis"
  | .local => "Local"

def StoreBackend.title : StoreBackend → String
  | .sqlite => "Sqlite"
  | .postgres => "Postgres"
  | .memory => "Memory"

def CompletionSettings.shown (s : CompletionSettings) : Shown :=
  .record "CompletionConfig" [("request_timeout_secs", .ofNat s.requestTimeoutSecs.toNat),
    ("first_byte_timeout_secs", .ofNat s.firstByteTimeoutSecs.toNat),
    ("max_error_body_bytes", .ofNat s.maxErrorBodyBytes.toNat)]

def CacheSettings.shown (s : CacheSettings) : Shown :=
  .record "CacheConfig" [("backend", .atom s.backend.title), ("redis_url", .ofOption (s.redisUrl.map redactUrl)),
    ("ttl_secs", .ofNat s.ttlSecs.toNat)]

def RateLimitSettings.shown (s : RateLimitSettings) : Shown :=
  .record "RateLimitConfig" [("backend", .atom s.backend.title),
    ("redis_url", .ofOption (s.redisUrl.map redactUrl)), ("max_requests", .ofNat s.maxRequests.toNat),
    ("window_secs", .ofNat s.windowSecs.toNat), ("expiry_buffer_secs", .ofNat s.expiryBufferSecs.toNat),
    ("exempt_paths", .ofTexts s.exemptPaths)]

def StoreSettings.shown (s : StoreSettings) : Shown :=
  .record "StoreConfig" [("backend", .atom s.backend.title), ("url", .ofText (redactUrl s.url))]

def PipelineSettings.shown (s : PipelineSettings) : Shown :=
  .record "PipelineConfig" [("history_limit", .ofNat s.historyLimit.toNat),
    ("max_prompt_chars", .ofNat s.maxPromptChars.toNat), ("system_prompt", .ofText s.systemPrompt)]

/-- Of the tokens only their number is shown. -/
def GatewaySettings.shown (s : GatewaySettings) : Shown :=
  .record "GatewayConfig" [("port", .ofNat s.listenPort.toNat), ("host", .ofText s.host),
    ("body_limit_bytes", .ofNat s.bodyLimitBytes.toNat), ("cors_origins", .ofTexts s.corsOrigins),
    ("tokens", .atom ("[" ++ toString s.tokens.size ++ " REDACTED]"))]

def shown (s : Settings) : Shown :=
  .record "AppConfig" [("api_key", .ofText (redact s.apiKey)), ("api_base", .ofText s.apiBase),
    ("default_model", .ofText s.defaultModel), ("default_temperature", .ofSingle s.defaultTemperature),
    ("default_max_tokens", .ofNat s.defaultMaxTokens.toNat), ("completion", s.completion.shown),
    ("cache", s.cache.shown), ("rate_limit", s.rateLimit.shown), ("store", s.store.shown),
    ("pipeline", s.pipeline.shown), ("gateway", s.gateway.shown)]

/-- The settings on one line. -/
def lineReport (s : Settings) : String := s.shown.line

/-- The settings over several lines. -/
def blockReport (s : Settings) : String := s.shown.block 0

end CompletionGateway.Settings
