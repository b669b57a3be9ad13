import CompletionGateway.Gateway.Opening
import CompletionGateway.Proofs.Admission.Expiry
import CompletionGateway.Proofs.Settings.Loading

/-! What the settings of a shared window come to in 64-bit words. The rules for settings ask only that the window is not
empty, so that windows and buffers are accepted whose microseconds, or whose sum, no word holds. What a request sends for
these is not what was meant. -/
namespace CompletionGateway.Admission
open Gateway Settings SharedWindow

/-! ### Words -/

lemma wrap64_bounds (i : Int) : -2 ^ 63 ≤ wrap64 i ∧ wrap64 i < 2 ^ 63 := by
  unfold wrap64
  have hleast := Int.le_bmod (x := i) (m := 2 ^ 64) (by decide)
  have hgreatest := Int.bmod_lt (x := i) (m := 2 ^ 64) (by decide)
  omega

/-- A number in the upper half of the unsigned words is read as a negative one. -/
lemma wrap64_upper {i : Int} (h : 2 ^ 63 ≤ i) (h' : i < 2 ^ 64) : wrap64 i = i - 2 ^ 64 := by
  have hsame : wrap64 (i - 2 ^ 64) = wrap64 i := Int.sub_bmod_right i (2 ^ 64)
  rw [← hsame]
  exact wrap64_eq (by omega) (by omega)

lemma clock_eq {elapsed : Nat} (h : ClockTime (elapsed / 1000)) : clock elapsed = elapsed / 1000 :=
  wrap64_eq (by have := h.1; omega) h.2

/-- A window that is no word is off by as much as the difference then wraps back. -/
lemma windowStart_eq_wrap64 (now : Int) (window : Nat) : windowStart now window = wrap64 (now - micros window) :=
  Int.sub_bmod_bmod

lemma micros_nanosOfSecs (secs : UInt64) : micros (nanosOfSecs secs) = secs.toNat * 1000000 := by
  unfold micros nanosOfSecs
  omega

lemma together?_nanosOfSecs (secs bufferSecs : UInt64) :
    together? (nanosOfSecs secs) (nanosOfSecs bufferSecs) =
      if secs.toNat + bufferSecs.toNat < 2 ^ 64 then some (nanosOfSecs secs + nanosOfSecs bufferSecs) else none := by
  have hseconds : (nanosOfSecs secs + nanosOfSecs bufferSecs) / 1000000000 = secs.toNat + bufferSecs.toNat := by
    unfold nanosOfSecs
    omega
  rw [together?, hseconds]

/-! ### What is sent -/

/-- The time up to which a request evicts. -/
structure BoundReckoned (secs : Nat) (now bound : Int) : Prop where
  /-- As long as the window is a word in microseconds, none of the steps to the bound leaves the words. -/
  steps : (secs * 1000000 : Int) < 2 ^ 63 →
    wrap64 (secs * 1000000) = secs * 1000000 ∧ wrap64 (now - secs * 1000000) = now - secs * 1000000
  /-- The bound is the one that was meant just if that is a word. -/
  exact_iff : bound = now - secs * 1000000 ↔ secs * 1000000 ≤ now + 2 ^ 63
  /-- Otherwise it is a later one, so that requests are evicted that are still in the window. -/
  late : now + 2 ^ 63 < secs * 1000000 → now - secs * 1000000 < bound

/-- The seconds until a key expires. -/
structure ExpiryReckoned (secs bufferSecs : Nat) (seconds : Int) : Prop where
  exact : secs + bufferSecs < 2 ^ 63 → seconds = secs + bufferSecs
  /-- There are any just if the sum is a signed word, and then they outlast the window. -/
  positive_iff : 0 < seconds ↔ secs + bufferSecs < 2 ^ 63
  outlasts_iff : secs ≤ seconds ↔ secs + bufferSecs < 2 ^ 63

/-- What a request sends for a window and a buffer of so many seconds. -/
structure Reckoned (secs bufferSecs : Nat) (now : Int) (sequence : Nat) (key : String)
    (sent : Option (List Command)) : Prop where
  /-- It fails just if the sum is not even an unsigned word. -/
  fails_iff : sent = none ↔ 2 ^ 64 ≤ secs + bufferSecs
  sends : ∀ commands, sent = some commands → ∃ bound seconds,
    commands = [.removeByScore key 0 bound, .add key (memberOf (now, sequence)) now, .cardinality key,
      .expire key seconds] ∧ BoundReckoned secs now bound ∧ ExpiryReckoned secs bufferSecs seconds

lemma windowStart_reckoned {now : Int} (hnow : ClockTime now) (secs : UInt64) :
    BoundReckoned secs.toNat now (windowStart now (nanosOfSecs secs)) := by
  obtain ⟨h0, h63⟩ := hnow
  rw [windowStart_eq_wrap64, micros_nanosOfSecs]
  obtain ⟨hleast, -⟩ := wrap64_bounds (now - secs.toNat * 1000000)
  refine ⟨fun hword => ⟨wrap64_eq ?_ hword, wrap64_eq ?_ ?_⟩, ⟨fun heq => ?_, fun hfits => wrap64_eq ?_ ?_⟩,
    fun hlong => ?_⟩ <;> omega

lemma expiry_reckoned {secs bufferSecs : UInt64} (hsecs : secs ≠ 0) (hsum : secs.toNat + bufferSecs.toNat < 2 ^ 64)
    (sequence : Nat) :
    ExpiryReckoned secs.toNat bufferSecs.toNat
      ((SharedWindow.mk (nanosOfSecs bufferSecs) sequence).expiry (nanosOfSecs secs)) := by
  have hpos : 0 < secs.toNat := Nat.pos_of_ne_zero fun h => hsecs (UInt64.toNat_inj.mp h)
  have hmax : max (secs.toNat + bufferSecs.toNat : Int) 1 = secs.toNat + bufferSecs.toNat := by omega
  rw [nanosOfSecs, nanosOfSecs, expiry_whole, hmax]
  by_cases hsigned : secs.toNat + bufferSecs.toNat < 2 ^ 63
  · have hexact : wrap64 (secs.toNat + bufferSecs.toNat) = secs.toNat + bufferSecs.toNat :=
      wrap64_eq (by omega) (by omega)
    rw [hexact]
    constructor <;> omega
  · rw [wrap64_upper (by omega) (by omega)]
    constructor <;> omega

/-- What a request sends under settings that were accepted, at any time that the clock can show: a time in microseconds
until well after the year 290000. -/
theorem accepted_reckoned {s : Settings} (hvalid : s.validate = .ok ()) (sequence : Nat) {elapsed : Nat}
    (hclock : ClockTime (elapsed / 1000)) (key : String) :
    Reckoned s.rateLimit.windowSecs.toNat s.rateLimit.expiryBufferSecs.toNat (elapsed / 1000) sequence key
      ((SharedWindow.mk (sharedWindowOf s.rateLimit).expiryBuffer sequence).send? elapsed key
        (policyOf s.rateLimit).window) := by
  have hwindow : s.rateLimit.windowSecs ≠ 0 := by
    have hrules := (validate_eq_ok_iff s).mp hvalid
    simp only [Valid, rules, List.forall_mem_cons] at hrules
    simpa using hrules.2.2.1
  have hsent := together?_nanosOfSecs s.rateLimit.windowSecs s.rateLimit.expiryBufferSecs
  constructor
  · rw [send?, Option.map_eq_none_iff, policyOf, sharedWindowOf, hsent]
    split <;> simp <;> omega
  · intro commands hcommands
    rw [send?, policyOf, sharedWindowOf, hsent, clock_eq hclock] at hcommands
    split at hcommands
    · rename_i hsum
      obtain rfl := Option.some.inj hcommands
      exact ⟨_, _, rfl, windowStart_reckoned hclock _, expiry_reckoned hwindow hsum _⟩
    · cases hcommands

/-- Settings with a window and a buffer of so many seconds. -/
def lasting (windowSecs bufferSecs : UInt64) : Settings :=
  { standard with
    rateLimit := { RateLimitSettings.standard with windowSecs := windowSecs, expiryBufferSecs := bufferSecs } }

/-- The longest window that is a word in microseconds, at the last moment of the year 2262. -/
theorem accepted_reckoned_longest : (lasting 9223372036854 1).validate = .ok () ∧
    ClockTime ((9246182399999999999 : Nat) / 1000) ∧
    Reckoned 9223372036854 1 9246182399999999 7 "rl:10.0.0.1"
      ((SharedWindow.mk 1000000000 7).send? 9246182399999999999 "rl:10.0.0.1" 9223372036854000000000) ∧
    (SharedWindow.mk 1000000000 7).send? 9246182399999999999 "rl:10.0.0.1" 9223372036854000000000 =
      some [.removeByScore "rl:10.0.0.1" 0 (9246182399999999 - 9223372036854000000),
        .add "rl:10.0.0.1" "9246182399999999-7" 9246182399999999, .cardinality "rl:10.0.0.1",
        .expire "rl:10.0.0.1" 9223372036855] := by
  have hvalid : (lasting 9223372036854 1).validate = .ok () := by decide
  have hclock : ClockTime ((9246182399999999999 : Nat) / 1000) := by
    unfold ClockTime
    decide
  exact ⟨hvalid, hclock, accepted_reckoned hvalid 7 hclock "rl:10.0.0.1", by decide⟩

/-- A file that asks for a shared window of more than half a million years, and what it sets. -/
def agesFile : FileState := .content (Text.utf8
  "[rate_limit]\nbackend = \"redis\"\nredis_url = \"redis://127.0.0.1:6379\"\nwindow_secs = 18446744073710\n")

def ages : Settings :=
  { standard with
    rateLimit :=
      { RateLimitSettings.standard with
        backend := .redis
        redisUrl := some "redis://127.0.0.1:6379"
        windowSecs := 18446744073710 } }

lemma load_agesFile : load "config.toml" agesFile (fun _ => none) = .ok ages := by
  have hread : agesFile.settings? = some ages := by decide +kernel
  rw [load, loadFile_some _ hread]
  rfl

/-- Its window begins less than half a second ago. With the longest window that a file can ask for, keys are over before
they are there, and with the longest of all every request fails. -/
theorem accepted_windows_wrap :
    load "config.toml" agesFile (fun _ => none) = .ok ages ∧ ages.validate = .ok () ∧
    (sharedWindowOf ages.rateLimit).send? 1760000000000000000 "rl:10.0.0.1" (policyOf ages.rateLimit).window =
      some [.removeByScore "rl:10.0.0.1" 0 (1760000000000000 - 448384),
        .add "rl:10.0.0.1" "1760000000000000-0" 1760000000000000, .cardinality "rl:10.0.0.1",
        .expire "rl:10.0.0.1" 18446744073711] ∧
    1760000000000000 - 448384 ≠ (1760000000000000 - 18446744073710 * 1000000 : Int) ∧
    (lasting 9223372036854775807 1).validate = .ok () ∧
    (sharedWindowOf (lasting 9223372036854775807 1).rateLimit).expiry
      (policyOf (lasting 9223372036854775807 1).rateLimit).window = -9223372036854775808 ∧
    (lasting 18446744073709551615 1).validate = .ok () ∧
    (sharedWindowOf (lasting 18446744073709551615 1).rateLimit).send? 1760000000000000000 "rl:10.0.0.1"
      (policyOf (lasting 18446744073709551615 1).rateLimit).window = none := by
  exact ⟨load_agesFile, by decide, by decide, by decide, by decide, by decide, by decide, by decide⟩

end CompletionGateway.Admission
