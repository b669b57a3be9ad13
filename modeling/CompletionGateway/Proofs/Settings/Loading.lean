import Mathlib
import CompletionGateway.Settings.Load

/-! Loading against the settings of the file and the environment merged at once. A file has to be valid by itself, so
that one is refused whose faults the environment would repair; apart from these files, loading depends on the merged
settings alone. -/
namespace CompletionGateway.Settings

/-! ### The rules -/

/-- All rules are kept. -/
def Valid (s : Settings) : Prop := ∀ r ∈ s.rules, r.1 = true

instance (s : Settings) : Decidable s.Valid := inferInstanceAs (Decidable (∀ r ∈ s.rules, r.1 = true))

lemma validate_eq_ok_iff (s : Settings) : s.validate = .ok () ↔ s.Valid := by
  unfold validate Valid
  split
  · rename_i r hr
    have hbroken := List.find?_some hr
    simp only [reduceCtorEq, false_iff, not_forall]
    exact ⟨r, List.mem_of_find?_eq_some hr, by simpa using hbroken⟩
  · rename_i hnone
    simpa using hnone

lemma validate_invalid {s : Settings} (h : ¬ s.Valid) : ∃ e, s.validate = .error e := by
  cases hs : s.validate with
  | ok _ => exact absurd ((validate_eq_ok_iff s).mp hs) h
  | error e => exact ⟨e, rfl⟩

/-! ### File and environment merged -/

/-- The settings in a file, or the defaults if there is none. -/
def FileState.settings? : FileState → Option Settings
  | .absent => some .standard
  | .directory => none
  | .content bytes => (Text.Utf8.decode? bytes).bind ofText?

/-- The number that a variable holds. -/
def numberOf? (env : Environment) (name : String) (bound : Nat) : Option Nat := (env name).bind (number? bound)

/-- The variables that have to hold numbers, and the bounds of these. -/
def numericVariables : List (String × Nat) :=
  [("SERVER_PORT", 2 ^ 16), ("RATE_LIMIT_RPM", 2 ^ 32), ("CACHE_TTL_SECONDS", 2 ^ 64)]

/-- Numeric variables hold numbers, as far as they are set. -/
def Readable (env : Environment) : Prop :=
  ∀ v ∈ numericVariables, (env v.1).isSome → (numberOf? env v.1 v.2).isSome

instance (env : Environment) : Decidable (Readable env) :=
  inferInstanceAs (Decidable (∀ v ∈ numericVariables, (env v.1).isSome → (numberOf? env v.1 v.2).isSome))

/-- Each setting is what the environment says, or else what it was. -/
def overlaid (env : Environment) (s : Settings) : Settings :=
  { s with
    apiKey := (apiKeyOf env).or s.apiKey
    apiBase := (env "LLM_API_BASE").getD s.apiBase
    defaultModel := (env "LLM_MODEL").getD s.defaultModel
    cache :=
      { s.cache with
        redisUrl := (env "REDIS_URL").or s.cache.redisUrl
        ttlSecs := ((numberOf? env "CACHE_TTL_SECONDS" (2 ^ 64)).map UInt64.ofNat).getD s.cache.ttlSecs }
    rateLimit :=
      { s.rateLimit with
        redisUrl := (env "REDIS_URL").or s.rateLimit.redisUrl
        maxRequests := ((numberOf? env "RATE_LIMIT_RPM" (2 ^ 32)).map UInt32.ofNat).getD s.rateLimit.maxRequests }
    store :=
      ⟨((env "DATABASE_URL").bind backendOfUrl?).getD s.store.backend, (env "DATABASE_URL").getD s.store.url⟩
    gateway :=
      { s.gateway with
        listenPort := ((numberOf? env "SERVER_PORT" (2 ^ 16)).map UInt16.ofNat).getD s.gateway.listenPort } }

/-- The settings of file and environment, if both can be read and what they make together is valid. -/
def merged? (file : FileState) (env : Environment) : Option Settings :=
  match file.settings? with
  | some s => if Readable env ∧ (overlaid env s).Valid then some (overlaid env s) else none
  | none => none

/-- A file that can be read is valid without the environment. -/
def FileState.Sound (file : FileState) : Prop := ∀ s, file.settings? = some s → s.Valid

/-! ### One variable after the other -/

lemma overText_none (value : Option String) (set : Settings → String → Settings) (s : Settings) :
    overText value set (s, none) = ((value.map (set s)).getD s, none) := by
  cases value <;> rfl

lemma overNumber_none {env : Environment} {name : String} {bound : Nat} (set : Settings → Nat → Settings) (s : Settings)
    (h : (env name).isSome → (numberOf? env name bound).isSome) :
    overNumber env name bound set (s, none) = (((numberOf? env name bound).map (set s)).getD s, none) := by
  cases hname : env name with
  | none => simp [overNumber, numberOf?, hname]
  | some v =>
    obtain ⟨n, hn⟩ := Option.isSome_iff_exists.mp (h (by simp [hname]))
    have hv : number? bound v = some n := by simpa [numberOf?, hname] using hn
    simp [overNumber, hname, hn, hv]

/-- What follows a failure does not undo it. -/
lemma overNumber_failed {env : Environment} {name : String} {bound : Nat} (set : Settings → Nat → Settings)
    {o : Overlay} (h : o.2.isSome) : (overNumber env name bound set o).2.isSome := by
  obtain ⟨e, he⟩ := Option.isSome_iff_exists.mp h
  simp [overNumber, he]

lemma overNumber_unreadable {env : Environment} {name : String} {bound : Nat} (set : Settings → Nat → Settings)
    (o : Overlay) (h : ¬ ((env name).isSome → (numberOf? env name bound).isSome)) :
    (overNumber env name bound set o).2.isSome := by
  obtain ⟨hset, hn⟩ := Classical.not_imp.mp h
  obtain ⟨v, hv⟩ := Option.isSome_iff_exists.mp hset
  have hnone : number? bound v = none := by simpa [numberOf?, hv] using hn
  cases hfailed : o.2 with
  | some e => exact overNumber_failed set (by simp [hfailed])
  | none => simp [overNumber, hfailed, hv, hnone]

/-- Where numbers can be read, the variables make up the overlay. -/
theorem applyEnvironment_readable {env : Environment} (h : Readable env) (s : Settings) :
    applyEnvironment env s = (overlaid env s, none) := by
  have hport := h ("SERVER_PORT", 2 ^ 16) (by simp [numericVariables])
  have hlimit := h ("RATE_LIMIT_RPM", 2 ^ 32) (by simp [numericVariables])
  have httl := h ("CACHE_TTL_SECONDS", 2 ^ 64) (by simp [numericVariables])
  have setKey : ∀ (v : Option String) (s : Settings),
      (v.map (setApiKey s)).getD s = { s with apiKey := v.or s.apiKey } := by rintro (_ | _) s <;> rfl
  have setBase : ∀ (v : Option String) (s : Settings),
      (v.map (setApiBase s)).getD s = { s with apiBase := v.getD s.apiBase } := by rintro (_ | _) s <;> rfl
  have setName : ∀ (v : Option String) (s : Settings),
      (v.map (setModel s)).getD s = { s with defaultModel := v.getD s.defaultModel } := by rintro (_ | _) s <;> rfl
  have setRedis : ∀ (v : Option String) (s : Settings), (v.map (setRedisUrl s)).getD s =
      { s with
        cache := { s.cache with redisUrl := v.or s.cache.redisUrl }
        rateLimit := { s.rateLimit with redisUrl := v.or s.rateLimit.redisUrl } } := by rintro (_ | _) s <;> rfl
  have setDatabase : ∀ (v : Option String) (s : Settings), (v.map (setDatabaseUrl s)).getD s =
      { s with store := ⟨(v.bind backendOfUrl?).getD s.store.backend, v.getD s.store.url⟩ } := by
    rintro (_ | _) s <;> rfl
  have setPort : ∀ (v : Option Nat) (s : Settings), (v.map (setListenPort s)).getD s =
      { s with gateway := { s.gateway with listenPort := (v.map UInt16.ofNat).getD s.gateway.listenPort } } := by
    rintro (_ | _) s <;> rfl
  have setLimit : ∀ (v : Option Nat) (s : Settings), (v.map (setMaxRequests s)).getD s =
      { s with
        rateLimit := { s.rateLimit with maxRequests := (v.map UInt32.ofNat).getD s.rateLimit.maxRequests } } := by
    rintro (_ | _) s <;> rfl
  have setTtl : ∀ (v : Option Nat) (s : Settings), (v.map (setCacheTtl s)).getD s =
      { s with cache := { s.cache with ttlSecs := (v.map UInt64.ofNat).getD s.cache.ttlSecs } } := by
    rintro (_ | _) s <;> rfl
  simp only [applyEnvironment, overText_none, overNumber_none _ _ hport, overNumber_none _ _ hlimit,
    overNumber_none _ _ httl, setKey, setBase, setName, setRedis, setDatabase, setPort, setLimit, setTtl]
  rfl

/-- A number that cannot be read fails the whole. -/
theorem applyEnvironment_unreadable {env : Environment} (h : ¬ Readable env) (s : Settings) :
    (applyEnvironment env s).2.isSome := by
  unfold applyEnvironment
  dsimp only
  by_cases httl : (env "CACHE_TTL_SECONDS").isSome → (numberOf? env "CACHE_TTL_SECONDS" (2 ^ 64)).isSome
  · apply overNumber_failed
    by_cases hlimit : (env "RATE_LIMIT_RPM").isSome → (numberOf? env "RATE_LIMIT_RPM" (2 ^ 32)).isSome
    · apply overNumber_failed
      apply overNumber_unreadable
      intro hport
      apply h
      simp only [Readable, numericVariables, List.forall_mem_cons]
      exact ⟨hport, hlimit, httl, by simp⟩
    · exact overNumber_unreadable _ _ hlimit
  · exact overNumber_unreadable _ _ httl

/-! ### Rules that the environment touches -/

/-- The numbers read lie below their bound. -/
lemma number?_lt {bound n : Nat} {s : String} (h : number? bound s = some n) : n < bound := by
  have hdigits : ∀ cs, digitsValue? bound cs = some n → n < bound := by
    intro cs hcs
    unfold digitsValue? at hcs
    split at hcs
    · cases hcs
    · dsimp only at hcs
      split at hcs
      · exact Option.some.inj hcs ▸ ‹_›
      · cases hcs
  unfold number? at h
  split at h <;> exact hdigits _ h

/-- The complaints that a variable can put right: two rules ask for what `REDIS_URL` gives, and one for a number that
`RATE_LIMIT_RPM` replaces. -/
def repairable (env : Environment) : List String :=
  (if (env "RATE_LIMIT_RPM").isSome then ["rate_limit.max_requests must be > 0"] else []) ++
    if (env "REDIS_URL").isSome then
      ["cache.backend = \"redis\" requires cache.redis_url or REDIS_URL",
        "rate_limit.backend = \"redis\" requires rate_limit.redis_url or REDIS_URL"]
    else []

/-- What is broken in the file alone can be put right by a variable that is set. -/
lemma broken_repairable {env : Environment} {s : Settings} (h : (overlaid env s).Valid) :
    ∀ r ∈ s.rules, r.1 = false → r.2 ∈ repairable env := by
  simp only [Valid, rules, List.forall_mem_cons, overlaid] at h ⊢
  obtain ⟨htemperature, hlimit, hwindow, hhistory, hprompt, htimeout, hcache, hrate, -⟩ := h
  have kept : ∀ {b : Bool} {P : Prop}, b = true → b = false → P := by
    rintro b P rfl hbroken
    cases hbroken
  refine ⟨kept htemperature, ?_, kept hwindow, kept hhistory, kept hprompt, kept htimeout, ?_, ?_, by simp⟩
  · intro hbroken
    cases hset : env "RATE_LIMIT_RPM" with
    | none => simp_all [numberOf?]
    | some v => simp [repairable, hset]
  · intro hbroken
    cases hset : env "REDIS_URL" with
    | none => simp_all
    | some v => simp [repairable, hset]
  · intro hbroken
    cases hset : env "REDIS_URL" with
    | none => simp_all
    | some v => simp [repairable, hset]

/-- An overlay breaks a valid file only by a rate limit of zero. -/
lemma Valid.overlaid_iff {env : Environment} {s : Settings} (h : s.Valid) :
    (overlaid env s).Valid ↔ numberOf? env "RATE_LIMIT_RPM" (2 ^ 32) ≠ some 0 := by
  simp only [Valid, rules, List.forall_mem_cons, overlaid] at h ⊢
  obtain ⟨htemperature, hlimit, hwindow, hhistory, hprompt, htimeout, hcache, hrate, -⟩ := h
  have hnumber : decide (((numberOf? env "RATE_LIMIT_RPM" (2 ^ 32)).map UInt32.ofNat).getD s.rateLimit.maxRequests ≠ 0)
      = true ↔ numberOf? env "RATE_LIMIT_RPM" (2 ^ 32) ≠ some 0 := by
    cases hn : numberOf? env "RATE_LIMIT_RPM" (2 ^ 32) with
    | none => simpa using hlimit
    | some n =>
      obtain ⟨v, -, hv⟩ := Option.bind_eq_some_iff.mp hn
      have hlt : n < UInt32.size := number?_lt hv
      have hzero : UInt32.ofNat n = 0 ↔ n = 0 := by
        rw [← UInt32.toNat_inj, UInt32.toNat_ofNat_of_lt' hlt]
        rfl
      simp [hzero]
  have hurl : ∀ u : Option String, u.isSome = true → ((env "REDIS_URL").or u).isSome = true := by
    intro u hu
    cases env "REDIS_URL" <;> simp [hu]
  constructor
  · rintro ⟨-, hkept, -⟩
    exact hnumber.mp hkept
  · intro hn
    refine ⟨htemperature, hnumber.mpr hn, hwindow, hhistory, hprompt, htimeout, ?_, ?_, by simp⟩
    · simp only [Bool.or_eq_true] at hcache ⊢
      exact hcache.imp_right (hurl _)
    · simp only [Bool.or_eq_true] at hrate ⊢
      exact hrate.imp_right (hurl _)

/-! ### Loading -/

lemma standard_valid : standard.Valid := by decide

lemma loadFile_some (path : String) {file : FileState} {s : Settings} (h : file.settings? = some s) :
    loadFile path file = s.validate.map fun _ => s := by
  cases file with
  | absent =>
    obtain rfl : standard = s := Option.some.inj h
    rw [(validate_eq_ok_iff _).mpr standard_valid]
    rfl
  | directory => cases h
  | content bytes =>
    obtain ⟨text, htext, hs⟩ := Option.bind_eq_some_iff.mp h
    simp only [loadFile, htext, hs]
    cases s.validate <;> rfl

lemma loadFile_none (path : String) {file : FileState} (h : file.settings? = none) :
    ∃ e, loadFile path file = .error e := by
  cases file with
  | absent => cases h
  | directory => exact ⟨_, rfl⟩
  | content bytes =>
    simp only [loadFile]
    cases htext : Text.Utf8.decode? bytes with
    | none => exact ⟨_, rfl⟩
    | some text =>
      have hread : ofText? text = none := by simpa [FileState.settings?, htext] using h
      simp only [hread]
      exact ⟨_, rfl⟩

/-- What is loaded is what file and environment make together, from a file that is valid by itself. -/
lemma load_eq_ok_iff (path : String) (file : FileState) (env : Environment) (s : Settings) :
    load path file env = .ok s ↔ merged? file env = some s ∧ file.Sound := by
  unfold load merged?
  cases hfile : file.settings? with
  | none =>
    obtain ⟨e, he⟩ := loadFile_none path hfile
    simp [he]
  | some base =>
    have hsound : file.Sound ↔ base.Valid := by simp [FileState.Sound, hfile]
    rw [loadFile_some path hfile, hsound]
    by_cases hbase : base.Valid
    · rw [(validate_eq_ok_iff base).mpr hbase]
      dsimp only [Except.map]
      by_cases henv : Readable env
      · rw [applyEnvironment_readable henv]
        by_cases hvalid : (overlaid env base).Valid
        · simp [(validate_eq_ok_iff _).mpr hvalid, henv, hvalid, hbase]
        · obtain ⟨e, he⟩ := validate_invalid hvalid
          simp [he, hvalid]
      · obtain ⟨e, he⟩ := Option.isSome_iff_exists.mp (applyEnvironment_unreadable henv base)
        rw [show applyEnvironment env base = ((applyEnvironment env base).1, some e) from Prod.ext rfl he]
        simp [henv]
    · obtain ⟨e, he⟩ := validate_invalid hbase
      simp [he, hbase, Except.map]

/-- How loading depends on a file and an environment. -/
structure LoadsMerged (path : String) (file : FileState) (env : Environment) : Prop where
  /-- What is loaded is what both make together, from a file that is valid by itself. -/
  loaded : ∀ s, load path file env = .ok s ↔ merged? file env = some s ∧ file.Sound
  /-- It depends on the merged settings alone unless they are valid and the file by itself is not. -/
  merged : (load path file env).toOption = merged? file env ↔ merged? file env = none ∨ file.Sound
  /-- A file that is refused for itself only breaks rules that a variable which is set would repair. -/
  repaired : ∀ base, file.settings? = some base → (merged? file env).isSome →
    ∀ r ∈ base.rules, r.1 = false → r.2 ∈ repairable env
  /-- From a valid file, loading fails only for a number that cannot be read or a rate limit of zero. -/
  spoiled : ∀ base, file.settings? = some base → base.Valid →
    ((load path file env).toOption = none ↔ ¬ Readable env ∨ numberOf? env "RATE_LIMIT_RPM" (2 ^ 32) = some 0)

/-- Loading depends on the merged settings alone, but for files whose faults the environment repairs. -/
theorem loads_merged (path : String) (file : FileState) (env : Environment) : LoadsMerged path file env := by
  have hoption : ∀ s, (load path file env).toOption = some s ↔ merged? file env = some s ∧ file.Sound := by
    intro s
    rw [← load_eq_ok_iff]
    cases load path file env <;> simp [Except.toOption]
  refine ⟨load_eq_ok_iff path file env, ?_, ?_, ?_⟩
  · constructor
    · intro heq
      cases hmerged : merged? file env with
      | none => exact .inl rfl
      | some s => exact .inr ((hoption s).mp (heq.trans hmerged)).2
    · rintro (hnone | hsound)
      · rw [hnone, Option.eq_none_iff_forall_ne_some]
        intro s hs
        rw [hoption, hnone] at hs
        cases hs.1
      · apply Option.ext
        intro s
        rw [hoption, and_iff_left hsound]
  · intro base hbase hmerged
    rw [merged?, hbase] at hmerged
    dsimp only at hmerged
    split at hmerged
    · exact broken_repairable (And.right ‹_›)
    · cases hmerged
  · intro base hbase hvalid
    have hsound : file.Sound := fun t ht => Option.some.inj (hbase.symm.trans ht) ▸ hvalid
    have hnone : (load path file env).toOption = none ↔ merged? file env = none := by
      simp only [Option.eq_none_iff_forall_ne_some, ne_eq, hoption, and_iff_left hsound]
    rw [hnone, merged?, hbase]
    simp only [ite_eq_right_iff, reduceCtorEq, imp_false, hvalid.overlaid_iff]
    tauto

/-- A file that asks for a cache on a server, and does not say which. -/
def serverless : FileState := .content (Text.utf8 "[cache]\nbackend = \"redis\"\n")

/-- An environment that names a server. -/
def oneServer : Environment := fun name => if name = "REDIS_URL" then some "redis://127.0.0.1:6379" else none

/-- The complaint about a missing server asks for the variable that is set, and with it the settings are valid. -/
theorem load_serverless :
    load "config.toml" serverless oneServer =
      .error (.invalid "cache.backend = \"redis\" requires cache.redis_url or REDIS_URL") ∧
    merged? serverless oneServer =
      some { standard with
        cache := { CacheSettings.standard with backend := .redis, redisUrl := some "redis://127.0.0.1:6379" }
        rateLimit := { RateLimitSettings.standard with redisUrl := some "redis://127.0.0.1:6379" } } := by
  have hread : serverless.settings? =
      some { standard with cache := { CacheSettings.standard with backend := .redis } } := by decide +kernel
  refine ⟨?_, ?_⟩
  · rw [load, loadFile_some _ hread]
    rfl
  · rw [merged?, hread]
    exact if_pos (by decide)

end CompletionGateway.Settings
