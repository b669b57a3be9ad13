import Mathlib
import CompletionGateway.Settings.Report

/-! What reports on settings keep to themselves. An address is shown without its user information, wherever else the
marks occur that delimit it; and settings that differ in secrets only have the same reports. -/
namespace CompletionGateway.Settings

/-! ### Addresses -/

/-- What separates the scheme of an address from the rest. -/
def schemeEnd : List Char := [':', '/', '/']

/-- The end of a scheme does not overlap with another one, so it is found right behind the scheme. -/
lemma before?_schemeEnd {scheme rest : List Char} (h : ¬ schemeEnd <:+: scheme) :
    before? schemeEnd (scheme ++ schemeEnd ++ rest) = some scheme := by
  induction scheme with
  | nil => rfl
  | cons c cs ih =>
    have hcs : ¬ schemeEnd <:+: cs := fun hin => h (hin.trans (List.suffix_cons c cs).isInfix)
    have hnot : ¬ schemeEnd <+: c :: (cs ++ schemeEnd ++ rest) := by
      match cs with
      | [] => simp [schemeEnd]
      | [d] => simp [schemeEnd]
      | d :: e :: ds =>
        intro hfront
        refine h (List.IsPrefix.isInfix ?_)
        simpa [schemeEnd] using hfront
    rw [List.cons_append, List.cons_append, before?, if_neg (by rwa [List.isPrefixOf_iff_prefix]), ih hcs]
    rfl

/-- What stands behind the last `@`, or everything if there is none. -/
def behindLastAt (cs : List Char) : List Char := (cs.reverse.takeWhile (· != '@')).reverse

lemma behindLastAt_append (front rest : List Char) : behindLastAt (front ++ '@' :: rest) = behindLastAt rest := by
  have hstop : List.takeWhile (· != '@') ('@' :: front.reverse) = [] := rfl
  rw [behindLastAt, behindLastAt, List.reverse_append, List.reverse_cons, List.append_assoc, List.singleton_append,
    List.takeWhile_append]
  split
  · rename_i hall
    rw [hstop, List.append_nil, (List.takeWhile_prefix _).eq_of_length hall]
  · rfl

lemma length_behindLastAt_le (cs : List Char) : (behindLastAt cs).length ≤ cs.length := by
  have hle := (List.takeWhile_sublist (· != '@') (l := cs.reverse)).length_le
  simpa [behindLastAt] using hle

/-- Of an address with user information the scheme is shown, and what stands behind the last `@`. -/
lemma redactUrl_userInfo {scheme : String} (h : ¬ schemeEnd <:+: scheme.toList) (user rest : String) :
    redactUrl (scheme ++ "://" ++ user ++ "@" ++ rest) =
      String.ofList (scheme.toList ++ "://[REDACTED]@".toList ++ behindLastAt rest.toList) := by
  have hchars : (scheme ++ "://" ++ user ++ "@" ++ rest).toList =
      scheme.toList ++ schemeEnd ++ (user.toList ++ '@' :: rest.toList) := by simp [schemeEnd]
  have hlast : behindLastAt (scheme ++ "://" ++ user ++ "@" ++ rest).toList = behindLastAt rest.toList := by
    rw [hchars, ← List.append_assoc, behindLastAt_append]
  have hlength : (scheme ++ "://" ++ user ++ "@" ++ rest).toList.length =
      scheme.toList.length + 4 + user.toList.length + rest.toList.length := by
    rw [hchars]
    simp [schemeEnd]
    omega
  have hle := length_behindLastAt_le rest.toList
  have hbefore : before? schemeEnd (scheme ++ "://" ++ user ++ "@" ++ rest).toList = some scheme.toList := by
    rw [hchars]
    exact before?_schemeEnd h
  unfold redactUrl
  dsimp only
  rw [show [':', '/', '/'] = schemeEnd from rfl, hbefore]
  dsimp only
  rw [← behindLastAt, hlast, hlength, if_pos (by omega)]

/-- Addresses that are the same but for their user information. -/
inductive SameAddress : String → String → Prop
  | same (url) : SameAddress url url
  | userInfo (scheme user user' rest : String) (plain : ¬ schemeEnd <:+: scheme.toList) :
      SameAddress (scheme ++ "://" ++ user ++ "@" ++ rest) (scheme ++ "://" ++ user' ++ "@" ++ rest)

lemma SameAddress.redactUrl_eq {url url' : String} (h : SameAddress url url') : redactUrl url = redactUrl url' := by
  cases h with
  | same => rfl
  | userInfo scheme user user' rest plain => rw [redactUrl_userInfo plain, redactUrl_userInfo plain]

lemma map_redactUrl_eq {url url' : Option String} (h : Option.Rel SameAddress url url') :
    url.map redactUrl = url'.map redactUrl := by
  cases h with
  | none => rfl
  | some h => rw [Option.map_some, Option.map_some, h.redactUrl_eq]

/-! ### Settings -/

/-- Settings that agree in everything but secrets: the text of the key, the tokens and their owners, and the user
information of addresses. -/
structure SameButSecrets (s s' : Settings) : Prop where
  key : s.apiKey.isSome = s'.apiKey.isSome
  cache : Option.Rel SameAddress s.cache.redisUrl s'.cache.redisUrl
  rateLimit : Option.Rel SameAddress s.rateLimit.redisUrl s'.rateLimit.redisUrl
  store : SameAddress s.store.url s'.store.url
  tokens : s.gateway.tokens.size = s'.gateway.tokens.size
  others : s' =
    { s with
      apiKey := s'.apiKey
      cache := { s.cache with redisUrl := s'.cache.redisUrl }
      rateLimit := { s.rateLimit with redisUrl := s'.rateLimit.redisUrl }
      store := { s.store with url := s'.store.url }
      gateway := { s.gateway with tokens := s'.gateway.tokens } }

lemma redact_eq {key key' : Option String} (h : key.isSome = key'.isSome) : redact key = redact key' := by
  cases key <;> cases key' <;> first | rfl | cases h

lemma SameButSecrets.shown_eq {s s' : Settings} (h : SameButSecrets s s') : s.shown = s'.shown := by
  obtain ⟨hkey, hcache, hrateLimit, hstore, htokens, hothers⟩ := h
  rw [hothers]
  unfold shown CacheSettings.shown RateLimitSettings.shown StoreSettings.shown GatewaySettings.shown
  dsimp only
  rw [redact_eq hkey, map_redactUrl_eq hcache, map_redactUrl_eq hrateLimit, hstore.redactUrl_eq, htokens]

/-- Neither report tells a secret. -/
theorem reports_tell_no_secrets {s s' : Settings} (h : SameButSecrets s s') :
    s.lineReport = s'.lineReport ∧ s.blockReport = s'.blockReport := by
  rw [lineReport, lineReport, blockReport, blockReport, h.shown_eq]
  exact ⟨rfl, rfl⟩

/-- Settings with a server for the cache, a store and one caller. -/
def withSecrets (key cacheUrl storeUrl token caller : String) : Settings :=
  { standard with
    apiKey := some key
    cache := ⟨.redis, some cacheUrl, 3600⟩
    store := ⟨.postgres, storeUrl⟩
    gateway := { GatewaySettings.standard with tokens := ⟨[(token, caller)]⟩ } }

/-- Passwords that hold the marks by which they are cut out. -/
def aliceSecrets : Settings :=
  withSecrets "sk-alice" "redis://alice:p@ss://word@cache:6379/0" "postgres://alice:@@db/gate?options=a@b" "tok-alice"
    "alice"

def bobSecrets : Settings :=
  withSecrets "sk-bob" "redis://:://@cache:6379/0" "postgres://@db/gate?options=a@b" "tok-bob" "bob"

theorem reports_tell_no_secrets_passwords :
    SameButSecrets aliceSecrets bobSecrets ∧ aliceSecrets ≠ bobSecrets ∧
    (aliceSecrets.lineReport = bobSecrets.lineReport ∧ aliceSecrets.blockReport = bobSecrets.blockReport) ∧
    aliceSecrets.cache.redisUrl.map redactUrl = some "redis://[REDACTED]@cache:6379/0" ∧
    redactUrl aliceSecrets.store.url = "postgres://[REDACTED]@b" := by
  have hsame : SameButSecrets aliceSecrets bobSecrets :=
    ⟨rfl, .some (.userInfo "redis" "alice:p@ss://word" ":://" "cache:6379/0" (by decide)), .none,
      .userInfo "postgres" "alice:@" "" "db/gate?options=a@b" (by decide), rfl, rfl⟩
  exact ⟨hsame, by decide, reports_tell_no_secrets hsame, by decide, by decide⟩

end CompletionGateway.Settings
