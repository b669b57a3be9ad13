import CompletionGateway.Settings.Basic
import CompletionGateway.Settings.Failure

/-! The rules that settings have to keep, in the order in which they are checked. -/
namespace CompletionGateway.Settings

/-- Each rule with what is said when it is broken. -/
def rules (s : Settings) : List (Bool × String) :=
  [(s.defaultTemperature.isBetweenZeroAnd 2, "default_temperature must be between 0.0 and 2.0"),
    (s.rateLimit.maxRequests ≠ 0, "rate_limit.max_requests must be > 0"),
    (s.rateLimit.windowSecs ≠ 0, "rate_limit.window_secs must be > 0"),
    (s.pipeline.historyLimit ≠ 0, "pipeline.history_limit must be > 0"),
    (s.pipeline.maxPromptChars ≠ 0, "pipeline.max_prompt_chars must be > 0"),
    (s.completion.firstByteTimeoutSecs ≤ s.completion.requestTimeoutSecs,
      "completion.first_byte_timeout_secs must not exceed request_timeout_secs"),
    (s.cache.backend ≠ .redis || s.cache.redisUrl.isSome,
      "cache.backend = \"redis\" requires cache.redis_url or REDIS_URL"),
    (s.rateLimit.backend ≠ .redis || s.rateLimit.redisUrl.isSome,
      "rate_limit.backend = \"redis\" requires rate_limit.redis_url or REDIS_URL")]

/-- The first rule that is broken, if any is. -/
def validate (s : Settings) : Except SettingsError Unit :=
  match s.rules.find? fun r => !r.1 with
  | some r => .error (.invalid r.2)
  | none => .ok ()

end CompletionGateway.Settings
