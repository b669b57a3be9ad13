import CompletionGateway.Settings.Basic
import CompletionGateway.Toml.Document

/-! Settings from the table of a document. What is missing has its default, what is not known is ignored, and
a value of the wrong type or out of range makes the whole unreadable. A group of settings may also be written
as the array of its members in order. -/
namespace CompletionGateway.Settings
open Toml

-- Powers are those of the core library, whatever else is imported.
attribute [local instance (2000)] instPowNat

abbrev Reading (α : Type) := Value → Option α

def text : Reading String
  | .string s => some s
  | _ => none

/-- A whole number below a bound. -/
def natBelow (bound : Nat) : Reading Nat
  | .integer i => if 0 ≤ i ∧ i < bound then some i.toNat else none
  | _ => none

def word16 : Reading UInt16 := fun v => (natBelow (2 ^ (16 : Nat)) v).map UInt16.ofNat
def word32 : Reading UInt32 := fun v => (natBelow (2 ^ (32 : Nat)) v).map UInt32.ofNat
def word64 : Reading UInt64 := fun v => (natBelow (2 ^ (64 : Nat)) v).map UInt64.ofNat

/-- A single-precision number, written with or without a fraction. -/
def temperature : Reading Numeric.Binary
  | .real b => some (Numeric.single.convert b)
  | .integer i => some (Numeric.single.ofInt i)
  | _ => none

def texts : Reading (List String)
  | .array vs => vs.mapM text
  | _ => none

/-- The member a date stands for where a table is expected. -/
def dateMember : String := "$__toml_private_datetime"

/-- Names with texts; a date is the table of its one member. -/
def textTable : Reading (Association String String)
  | .table es => (es.mapM fun e => (text e.2).map fun s => (e.1, s)).map .mk
  | .datetime s => some ⟨[(dateMember, s)]⟩
  | _ => none

/-- One of several names, given as such or as the only key of a table, with nothing under it. -/
def oneOf {α : Type} (name : α → String) (all : List α) : Reading α
  | .string s => all.find? fun a => name a = s
  | .table [(s, .table [])] => all.find? fun a => name a = s
  | .table [(s, .array [])] => all.find? fun a => name a = s
  | _ => none

/-- The members of a group, each found or missing. -/
def members (names : List String) : Reading (List (Option Value))
  | .table es => some (names.map fun n => (es.find? (·.1 = n)).map (·.2))
  | .array vs => some ((List.range names.length).map fun i => vs[i]?)
  | .datetime _ => some (names.map fun _ => none)
  | _ => none

/-- The member at a place, or its default. -/
def orElse {α : Type} (r : Reading α) (standard : α) (found : List (Option Value)) (i : Nat) : Option α :=
  match (found[i]?).join with
  | some v => r v
  | none => some standard

def optional {α : Type} (r : Reading α) : Reading (Option α) := fun v => (r v).map some

def CompletionSettings.read : Reading CompletionSettings := fun v => do
  let m ← members ["request_timeout_secs", "first_byte_timeout_secs", "max_error_body_bytes"] v
  let d := CompletionSettings.standard
  some ⟨← orElse word64 d.requestTimeoutSecs m 0, ← orElse word64 d.firstByteTimeoutSecs m 1,
    ← orElse word64 d.maxErrorBodyBytes m 2⟩

def CacheSettings.read : Reading CacheSettings := fun v => do
  let m ← members ["backend", "redis_url", "ttl_secs"] v
  let d := CacheSettings.standard
  some ⟨← orElse (oneOf CacheBackend.name CacheBackend.all) d.backend m 0, ← orElse (optional text) none m 1,
    ← orElse word64 d.ttlSecs m 2⟩

def RateLimitSettings.read : Reading RateLimitSettings := fun v => do
  let m ← members ["backend", "redis_url", "max_requests", "window_secs", "expiry_buffer_secs",
    "exempt_paths"] v
  let d := RateLimitSettings.standard
  some ⟨← orElse (oneOf RateLimitBackend.name RateLimitBackend.all) d.backend m 0, ← orElse (optional text) none m 1,
    ← orElse word32 d.maxRequests m 2, ← orElse word64 d.windowSecs m 3, ← orElse word64 d.expiryBufferSecs m 4,
    ← orElse texts d.exemptPaths m 5⟩

def StoreSettings.read : Reading StoreSettings := fun v => do
  let m ← members ["backend", "url"] v
  let d := StoreSettings.standard
  some ⟨← orElse (oneOf StoreBackend.name StoreBackend.all) d.backend m 0, ← orElse text d.url m 1⟩

def PipelineSettings.read : Reading PipelineSettings := fun v => do
  let m ← members ["history_limit", "max_prompt_chars", "system_prompt"] v
  let d := PipelineSettings.standard
  some ⟨← orElse word64 d.historyLimit m 0, ← orElse word64 d.maxPromptChars m 1,
    ← orElse text d.systemPrompt m 2⟩

def GatewaySettings.read : Reading GatewaySettings := fun v => do
  let m ← members ["port", "host", "body_limit_bytes", "cors_origins", "tokens"] v
  let d := GatewaySettings.standard
  some ⟨← orElse word16 d.listenPort m 0, ← orElse text d.host m 1, ← orElse word64 d.bodyLimitBytes m 2,
    ← orElse texts d.corsOrigins m 3, ← orElse textTable d.tokens m 4⟩

/-- The settings of a document. -/
def read : Reading Settings := fun v => do
  let m ← members ["api_key", "api_base", "default_model", "default_temperature", "default_max_tokens",
    "completion", "cache", "rate_limit", "store", "pipeline", "gateway"] v
  let d := Settings.standard
  some ⟨← orElse (optional text) none m 0, ← orElse text d.apiBase m 1, ← orElse text d.defaultModel m 2,
    ← orElse temperature d.defaultTemperature m 3, ← orElse word32 d.defaultMaxTokens m 4,
    ← orElse CompletionSettings.read d.completion m 5, ← orElse CacheSettings.read d.cache m 6,
    ← orElse RateLimitSettings.read d.rateLimit m 7, ← orElse StoreSettings.read d.store m 8,
    ← orElse PipelineSettings.read d.pipeline m 9, ← orElse GatewaySettings.read d.gateway m 10⟩

end CompletionGateway.Settings
