import CompletionGateway.Proofs.Admission.SetServer
import CompletionGateway.Proofs.Numeric.Places

/-! Gateways that share one window. What a gateway counts are the marks, each a time and the number that it gave to the
request, of all requests in the window: requests of two gateways that bear the same mark are counted once. So the limit
holds for marks, and it holds for requests as long as no two of them bear the same. -/
namespace CompletionGateway.Admission

/-- A request that a gateway records, at a time in microseconds. -/
structure SharedArrival where
  gateway : Nat
  key : String
  time : Int
  deriving DecidableEq, Repr

/-- A request on record: the gateway's number for it, and what became of it. -/
structure Recorded where
  arrival : SharedArrival
  sequence : Nat
  outcome : Outcome
  deriving DecidableEq, Repr

/-- Gateways, by number, and the server they share. -/
structure Fleet where
  gateways : Nat → SharedWindow
  server : SetServer

namespace Fleet

/-- The gateways begin to count at zero, each with its own expiry buffer. -/
def start (buffers : Nat → Nat) (expires : Bool) : Fleet := ⟨fun g => ⟨buffers g, 0⟩, ⟨.empty, expires⟩⟩

/-- One transaction of one gateway. -/
def record (f : Fleet) (limit : UInt32) (window : Nat) (a : SharedArrival) : Recorded × Fleet :=
  let r := (f.gateways a.gateway).hit f.server a.time a.key limit window
  (⟨a, (f.gateways a.gateway).sequence, r.1⟩, ⟨Function.update f.gateways a.gateway r.2.1, r.2.2⟩)

/-- Transactions of the gateways in the order in which the server runs them. -/
def recordAll (f : Fleet) (limit : UInt32) (window : Nat) : List SharedArrival → List Recorded
  | [] => []
  | a :: as => (f.record limit window a).1 :: (f.record limit window a).2.recordAll limit window as

end Fleet

namespace Recorded

/-- What tells a request from others. -/
def mark (x : Recorded) : Int × Nat := (x.arrival.time, x.sequence)

end Recorded

/-- The member of a sorted set that stands for a mark. -/
def memberOf (mark : Int × Nat) : String := toString mark.1 ++ "-" ++ toString mark.2

/-- The marks of the requests of a key after a time. -/
def marksAfter (log : List Recorded) (key : String) (t : Int) : Finset (Int × Nat) :=
  ((log.filter fun x => x.arrival.key = key ∧ t < x.arrival.time).map (·.mark)).toFinset

lemma mem_marksAfter {log : List Recorded} {key : String} {t : Int} {mark : Int × Nat} :
    mark ∈ marksAfter log key t ↔ ∃ x ∈ log, (x.arrival.key = key ∧ t < x.arrival.time) ∧ x.mark = mark := by
  simp [marksAfter, and_assoc]

/-- A member tells its mark. -/
lemma memberOf_injOn : Set.InjOn memberOf {mark | 0 ≤ mark.1} := by
  rintro ⟨t, m⟩ ht ⟨u, n⟩ hu h
  obtain ⟨t, rfl⟩ := Int.eq_ofNat_of_zero_le ht
  obtain ⟨u, rfl⟩ := Int.eq_ofNat_of_zero_le hu
  have hdash : ∀ n : Nat, '-' ∉ Nat.toDigits 10 n :=
    Numeric.not_mem_toDigits (by decide) (by decide) (by decide)
  have hchars : Nat.toDigits 10 t ++ '-' :: Nat.toDigits 10 m = Nat.toDigits 10 u ++ '-' :: Nat.toDigits 10 n := by
    have hint : ∀ n : Nat, (n : Int).repr.toList = Nat.toDigits 10 n := fun n => Nat.toList_repr
    have hlists := congrArg String.toList h
    simpa [memberOf, Int.toString_eq_repr, hint] using hlists
  obtain ⟨htime, -, hsequence⟩ := (List.append_cons_inj_of_notMem (hdash _) (hdash _)).mp hchars
  have hdigits : Function.Injective (Nat.toDigits 10) := Numeric.toDigits_injective (by decide) (by decide)
  rw [hdigits htime, hdigits hsequence]

/-! ### Times -/

/-- A time that a clock of microseconds in 64-bit words can show. -/
def ClockTime (t : Int) : Prop := 0 ≤ t ∧ t < 2 ^ 63

lemma wrap64_eq {i : Int} (h : -2 ^ 63 ≤ i) (h' : i < 2 ^ 63) : wrap64 i = i := by
  unfold wrap64
  exact Int.bmod_eq_of_le (by omega) (by omega)

/-- The window in whole microseconds. -/
def micros (window : Nat) : Int := window / 1000

lemma micros_nonneg (window : Nat) : 0 ≤ micros window := by unfold micros; omega

lemma windowStart_eq {now : Int} {window : Nat} (hnow : ClockTime now) (hw : micros window < 2 ^ 63) :
    SharedWindow.windowStart now window = now - micros window := by
  obtain ⟨h0, h63⟩ := hnow
  have hpos := micros_nonneg window
  have hinner : wrap64 (window / 1000) = micros window := wrap64_eq (by unfold micros at hpos; omega) hw
  rw [SharedWindow.windowStart, hinner]
  exact wrap64_eq (by omega) (by omega)

/-! ### What a key's set holds -/

/-- The set of a key holds the members of the requests in the window, and of earlier ones at most. -/
structure SetTracks (key : String) (window : Nat) (log : List Recorded) (now : Int) (server : SetServer) : Prop where
  past : ∀ x ∈ log, x.arrival.key = key → 0 ≤ x.arrival.time ∧ x.arrival.time ≤ now
  distinct : ∀ t, now ≤ t → (server.lookup t key).members.Nodup
  held : ∀ t, now ≤ t → ∀ e ∈ (server.lookup t key).members,
    ∃ x ∈ log, x.arrival.key = key ∧ (memberOf x.mark, x.arrival.time) = e
  kept : ∀ t, now ≤ t → ∀ x ∈ log, x.arrival.key = key → t - micros window < x.arrival.time →
    (memberOf x.mark, x.arrival.time) ∈ (server.lookup t key).members

namespace SetTracks
variable {key : String} {window : Nat} {log : List Recorded} {now : Int} {server : SetServer}

lemma start (key : String) (window : Nat) (now : Int) (expires : Bool) :
    SetTracks key window [] now ⟨.empty, expires⟩ :=
  ⟨by simp, fun _ _ => List.nodup_nil, fun t _ e he => absurd he List.not_mem_nil, by simp⟩

lemma later (h : SetTracks key window log now server) {t : Int} (ht : now ≤ t) : SetTracks key window log t server :=
  ⟨fun x hx hkey => ⟨(h.past x hx hkey).1, (h.past x hx hkey).2.trans ht⟩, fun u hu => h.distinct u (ht.trans hu),
    fun u hu => h.held u (ht.trans hu), fun u hu => h.kept u (ht.trans hu)⟩

/-- The set after a request holds the members of the requests in the window and of the request. -/
lemma mem_afterwards (h : SetTracks key window log now server) {x : Recorded}
    (htime : x.arrival.time = now) (hnow : 0 ≤ now) (e : String × Int) :
    e ∈ SetServer.afterwards (server.lookup now key) 0 (now - micros window) (memberOf x.mark) now ↔
      ∃ mark ∈ insert x.mark (marksAfter log key (now - micros window)), (memberOf mark, mark.1) = e := by
  have hx0 : 0 ≤ x.mark.1 := hnow.trans_eq htime.symm
  simp only [SetServer.afterwards, SetServer.addMember, List.mem_append, List.mem_filter, List.mem_singleton,
    Finset.mem_insert]
  constructor
  · rintro (⟨⟨hold, hrecent⟩, -⟩ | rfl)
    · obtain ⟨y, hy, hykey, rfl⟩ := h.held now (le_refl now) e hold
      obtain ⟨hy0, hynow⟩ := h.past y hy hykey
      refine ⟨y.mark, .inr (mem_marksAfter.mpr ⟨y, hy, ⟨hykey, ?_⟩, rfl⟩), rfl⟩
      simpa [hy0] using hrecent
    · exact ⟨x.mark, .inl rfl, by rw [← htime]; rfl⟩
  · rintro ⟨mark, rfl | hmark, rfl⟩
    · exact .inr (by rw [← htime]; rfl)
    · obtain ⟨y, hy, ⟨hykey, hrecent⟩, rfl⟩ := mem_marksAfter.mp hmark
      obtain ⟨hy0, hynow⟩ := h.past y hy hykey
      by_cases hsame : memberOf y.mark = memberOf x.mark
      · have hmark : y.mark = x.mark := memberOf_injOn hy0 hx0 hsame
        exact .inr (by rw [hmark, ← htime]; rfl)
      · refine .inl ⟨⟨h.kept now (le_refl now) y hy hykey hrecent, ?_⟩, by simpa using hsame⟩
        have hlate : now - micros window < y.mark.1 := hrecent
        simp [hlate]

lemma nodup_afterwards (h : SetTracks key window log now server) (least greatest : Int) (member : String)
    (score : Int) : (SetServer.afterwards (server.lookup now key) least greatest member score).Nodup := by
  have hold := ((h.distinct now (le_refl now)).filter
    fun m => !(least ≤ m.2 && m.2 ≤ greatest)).filter fun m => m.1 ≠ member
  rw [SetServer.afterwards, SetServer.addMember, List.nodup_append]
  refine ⟨hold, List.nodup_singleton _, ?_⟩
  rintro e he f hf rfl
  have hne := (List.mem_filter.mp he).2
  rw [List.mem_singleton.mp hf] at hne
  simp at hne

/-- So many marks are counted. -/
lemma length_afterwards (h : SetTracks key window log now server) {x : Recorded}
    (htime : x.arrival.time = now) (hnow : 0 ≤ now) :
    (SetServer.afterwards (server.lookup now key) 0 (now - micros window) (memberOf x.mark) now).length =
      (insert x.mark (marksAfter log key (now - micros window))).card := by
  have hinj : Set.InjOn (fun mark : Int × Nat => (memberOf mark, mark.1))
      (insert x.mark (marksAfter log key (now - micros window)) : Finset (Int × Nat)) := by
    have h0 : ∀ mark ∈ insert x.mark (marksAfter log key (now - micros window)), 0 ≤ mark.1 := by
      intro mark hmark
      rcases Finset.mem_insert.mp hmark with rfl | hmark
      · exact hnow.trans_eq htime.symm
      · obtain ⟨y, hy, ⟨hykey, -⟩, rfl⟩ := mem_marksAfter.mp hmark
        exact (h.past y hy hykey).1
    intro mark hmark mark' hmark' heq
    exact memberOf_injOn (h0 mark hmark) (h0 mark' hmark') (Prod.ext_iff.mp heq).1
  rw [← Finset.card_image_of_injOn hinj, ← List.toFinset_card_of_nodup (h.nodup_afterwards _ _ _ _)]
  congr 1
  ext e
  rw [List.mem_toFinset, h.mem_afterwards htime hnow, Finset.mem_image]

end SetTracks

/-! ### One request -/

namespace Fleet
variable {f : Fleet} {key : String} {limit : UInt32} {window : Nat} {log : List Recorded} {now : Int}
  {a : SharedArrival}

/-- Keys are not deleted before their last request has left the window. -/
def Keeps (f : Fleet) (window : Nat) : Prop :=
  f.server.expires = true → ∀ g, micros window ≤ (f.gateways g).expiry window * 1000000

/-- The set that a request leaves behind, and what it was told. -/
lemma record_eq (f : Fleet) (limit : UInt32) (window : Nat) (a : SharedArrival) :
    let x := (f.record limit window a).1
    let members := SetServer.afterwards (f.server.lookup a.time a.key) 0 (SharedWindow.windowStart a.time window)
      (memberOf x.mark) a.time
    x.arrival = a ∧ x.outcome = SharedWindow.outcome limit (UInt32.ofNat members.length) ∧
      (f.record limit window a).2.server.expires = f.server.expires ∧
      ∀ t key, (f.record limit window a).2.server.lookup t key =
        if key = a.key then
          SortedSet.seen f.server.expires t
            ⟨members, some (a.time + (f.gateways a.gateway).expiry window * 1000000)⟩
        else f.server.lookup t key := by
  obtain ⟨hcount, hexpires, hlookup⟩ := f.server.runAll_record a.time a.key 0
    (SharedWindow.windowStart a.time window) ((f.gateways a.gateway).member a.time) a.time
    ((f.gateways a.gateway).expiry window)
  refine ⟨rfl, ?_, hexpires, hlookup⟩
  exact congrArg (fun n : Option Nat => SharedWindow.outcome limit (UInt32.ofNat (n.getD 0))) hcount

lemma Keeps.record (h : f.Keeps window) (a : SharedArrival) : (f.record limit window a).2.Keeps window := by
  intro hexpires g
  have hg := h ((f.record_eq limit window a).2.2.1 ▸ hexpires) g
  by_cases hsame : g = a.gateway
  · subst hsame
    simpa [Fleet.record, SharedWindow.hit, SharedWindow.advance, SharedWindow.expiry] using hg
  · simpa [Fleet.record, hsame] using hg

/-- A request for another key does not touch the set. -/
lemma tracks_record_other (h : SetTracks key window log now f.server) (hkey : a.key ≠ key) :
    SetTracks key window (log ++ [(f.record limit window a).1]) now (f.record limit window a).2.server := by
  obtain ⟨harrival, -, -, hlookup⟩ := f.record_eq limit window a
  have hsame : ∀ t, (f.record limit window a).2.server.lookup t key = f.server.lookup t key := fun t => by
    rw [hlookup, if_neg (Ne.symm hkey)]
  have hlog : ∀ x ∈ log ++ [(f.record limit window a).1], x.arrival.key = key → x ∈ log := by
    intro x hx hxkey
    rcases List.mem_append.mp hx with hx | hx
    · exact hx
    · rw [List.mem_singleton.mp hx, harrival] at hxkey
      exact absurd hxkey hkey
  refine ⟨fun x hx hxkey => h.past x (hlog x hx hxkey) hxkey, fun t ht => hsame t ▸ h.distinct t ht, ?_, ?_⟩
  · intro t ht e he
    obtain ⟨x, hx, hxkey, rfl⟩ := h.held t ht e (hsame t ▸ he)
    exact ⟨x, List.mem_append_left _ hx, hxkey, rfl⟩
  · intro t ht x hx hxkey hrecent
    rw [hsame]
    exact h.kept t ht x (hlog x hx hxkey) hxkey hrecent

/-- A request is told how many marks there are in the window with its own, and its member is in the set. -/
lemma tracks_record (limit : UInt32) (h : SetTracks key window log now f.server)
    (hkeeps : 0 < micros window → f.Keeps window) (hw : micros window < 2 ^ 63) (hkey : a.key = key) (hnow : now ≤ a.time)
    (hclock : ClockTime a.time) :
    (f.record limit window a).1.outcome = SharedWindow.outcome limit
      (UInt32.ofNat (insert (f.record limit window a).1.mark (marksAfter log key (a.time - micros window))).card) ∧
    SetTracks key window (log ++ [(f.record limit window a).1]) a.time (f.record limit window a).2.server := by
  have h := h.later hnow
  obtain ⟨harrival, houtcome, hexpires, hlookup⟩ := f.record_eq limit window a
  set x := (f.record limit window a).1 with hx
  have htime : x.arrival.time = a.time := by rw [harrival]
  rw [windowStart_eq hclock hw, hkey] at houtcome hlookup
  rw [h.length_afterwards htime hclock.1] at houtcome
  have hseen : ∀ t, ((f.record limit window a).2.server.lookup t key).members =
      if f.server.expires = true ∧ a.time + (f.gateways a.gateway).expiry window * 1000000 ≤ t then []
      else SetServer.afterwards (f.server.lookup a.time key) 0 (a.time - micros window) (memberOf x.mark) a.time :=
    fun t => by rw [hlookup, if_pos rfl, SortedSet.members_seen]
  refine ⟨houtcome, ?_, ?_, ?_, ?_⟩
  · intro y hy hykey
    rcases List.mem_append.mp hy with hy | hy
    · exact h.past y hy hykey
    · rw [List.mem_singleton.mp hy, htime]
      exact ⟨hclock.1, le_refl _⟩
  · intro t _
    rw [hseen]
    split
    · exact List.nodup_nil
    · exact h.nodup_afterwards _ _ _ _
  · intro t _ e he
    rw [hseen] at he
    split at he
    · cases he
    · obtain ⟨mark, hmark, rfl⟩ := (h.mem_afterwards htime hclock.1 e).mp he
      rcases Finset.mem_insert.mp hmark with rfl | hmark
      · exact ⟨x, by simp, harrival.symm ▸ hkey, rfl⟩
      · obtain ⟨y, hy, ⟨hykey, -⟩, rfl⟩ := mem_marksAfter.mp hmark
        exact ⟨y, List.mem_append_left _ hy, hykey, rfl⟩
  · intro t ht y hy hykey hrecent
    have hy' : y.mark ∈ insert x.mark (marksAfter log key (a.time - micros window)) ∧ y.arrival.time ≤ a.time := by
      rcases List.mem_append.mp hy with hy | hy
      · have hrecent : a.time - micros window < y.arrival.time := by omega
        exact ⟨Finset.mem_insert_of_mem (mem_marksAfter.mpr ⟨y, hy, ⟨hykey, hrecent⟩, rfl⟩), (h.past y hy hykey).2⟩
      · rw [List.mem_singleton.mp hy]
        exact ⟨Finset.mem_insert_self _ _, htime.le⟩
    -- the key is not deleted as long as the request is in the window
    have hlive : ¬ (f.server.expires = true ∧
        a.time + (f.gateways a.gateway).expiry window * 1000000 ≤ t) := by
      rintro ⟨hexpiring, hover⟩
      have hlong := hkeeps (by omega) hexpiring a.gateway
      omega
    rw [hseen, if_neg hlive]
    exact (h.mem_afterwards htime hclock.1 _).mpr ⟨y.mark, hy'.1, rfl⟩

/-! ### All requests -/

/-- Each request is told how many marks there are in the window with its own. -/
theorem recordAll_outcome {as : List SharedArrival} (h : SetTracks key window log now f.server)
    (hkeeps : 0 < micros window → f.Keeps window) (hw : micros window < 2 ^ 63)
    (hclock : ∀ a ∈ as, a.key = key → ClockTime a.time)
    (hnow : ∀ a ∈ as, a.key = key → now ≤ a.time)
    (hordered : as.Pairwise fun a b => a.key = key → b.key = key → a.time ≤ b.time) {pre : List Recorded}
    {x : Recorded} {post : List Recorded} (hsplit : f.recordAll limit window as = pre ++ x :: post)
    (hkey : x.arrival.key = key) :
    x.outcome = SharedWindow.outcome limit
      (UInt32.ofNat (insert x.mark (marksAfter (log ++ pre) key (x.arrival.time - micros window))).card) := by
  induction as generalizing f log now pre with
  | nil => simp [recordAll] at hsplit
  | cons a as ih =>
    obtain ⟨hle, hordered⟩ := List.pairwise_cons.mp hordered
    have harrival := (f.record_eq limit window a).1
    cases pre with
    | nil =>
      obtain ⟨rfl, -⟩ := List.cons.inj hsplit
      have hakey : a.key = key := harrival ▸ hkey
      rw [List.append_nil, harrival]
      exact (tracks_record limit h hkeeps hw hakey (hnow a List.mem_cons_self hakey)
        (hclock a List.mem_cons_self hakey)).1
    | cons w pre =>
      obtain ⟨rfl, htail⟩ := List.cons.inj hsplit
      rw [List.append_cons]
      have hclock' : ∀ b ∈ as, b.key = key → ClockTime b.time := fun b hb => hclock b (List.mem_cons_of_mem _ hb)
      by_cases hakey : a.key = key
      · have htracks := (tracks_record limit h hkeeps hw hakey (hnow a List.mem_cons_self hakey)
          (hclock a List.mem_cons_self hakey)).2
        exact ih htracks (fun hpos => (hkeeps hpos).record a) hclock' (fun b hb => hle b hb hakey) hordered htail
      · exact ih (tracks_record_other h hakey) (fun hpos => (hkeeps hpos).record a) hclock'
          (fun b hb => hnow b (List.mem_cons_of_mem _ hb)) hordered htail

lemma arrivals_recordAll (f : Fleet) (limit : UInt32) (window : Nat) (as : List SharedArrival) :
    (f.recordAll limit window as).map (·.arrival) = as := by
  induction as generalizing f with
  | nil => rfl
  | cons a as ih => rw [recordAll, List.map_cons, ih, (f.record_eq limit window a).1]

lemma start_keeps {buffers : Nat → Nat} {expires : Bool} :
    (start buffers expires).Keeps window ↔
      (expires = true → ∀ g, micros window ≤ (SharedWindow.mk (buffers g) 0).expiry window * 1000000) := Iff.rfl

end Fleet

/-! ### The limit -/

/-- The admitted requests of a key in an interval. -/
def admittedIn (log : List Recorded) (key : String) (start stop : Int) : List Recorded :=
  log.filter fun x => x.outcome.admitted ∧ x.arrival.key = key ∧ start ≤ x.arrival.time ∧ x.arrival.time < stop

/-- If each admitted request found no more marks in its window than the limit, there are no more in any interval as long
as the window. -/
lemma card_marks_le {log : List Recorded} {key : String} {w : Int} {limit : Nat}
    (h : ∀ pre x post, log = pre ++ x :: post → x.arrival.key = key → x.outcome.admitted = true → 0 < w →
      (insert x.mark (marksAfter pre key (x.arrival.time - w))).card ≤ limit) (start : Int) :
    ((admittedIn log key start (start + w)).map (·.mark)).toFinset.card ≤ limit := by
  induction log using List.reverseRecOn with
  | nil => simp [admittedIn]
  | append_singleton log x ih =>
    have hlog := ih fun pre y post hpre => h pre y (post ++ [x]) (by rw [hpre]; simp)
    by_cases hx : x.outcome.admitted ∧ x.arrival.key = key ∧ start ≤ x.arrival.time ∧ x.arrival.time < start + w
    · obtain ⟨hadmitted, hkey, hstart, hstop⟩ := hx
      refine le_trans (Finset.card_le_card ?_) (h log x [] rfl hkey hadmitted (by omega))
      -- what lies in the interval with the last request lies in its window
      intro mark hmark
      obtain ⟨y, hy, rfl⟩ := List.mem_map.mp (List.mem_toFinset.mp hmark)
      obtain ⟨hy, hinside⟩ := List.mem_filter.mp hy
      simp only [decide_eq_true_eq] at hinside
      rcases List.mem_append.mp hy with hy | hy
      · exact Finset.mem_insert_of_mem (mem_marksAfter.mpr ⟨y, hy, ⟨hinside.2.1, by omega⟩, rfl⟩)
      · rw [List.mem_singleton.mp hy]
        exact Finset.mem_insert_self _ _
    · have hsame : admittedIn (log ++ [x]) key start (start + w) = admittedIn log key start (start + w) := by
        rw [admittedIn, List.filter_append, List.filter_cons_of_neg (by simpa using hx), List.filter_nil,
          List.append_nil, admittedIn]
      rw [hsame]
      exact hlog

/-- No more marks are counted than there were requests in the window. -/
lemma card_marks_le_countP {pre post : List Recorded} {x : Recorded} {key : String} {w : Int} (hw : 0 < w)
    (hkey : x.arrival.key = key) (hordered : ∀ y ∈ pre, y.arrival.key = key → y.arrival.time ≤ x.arrival.time) :
    (insert x.mark (marksAfter pre key (x.arrival.time - w))).card ≤
      ((pre ++ x :: post).map (·.arrival)).countP fun a =>
        a.key = key ∧ x.arrival.time - w < a.time ∧ a.time ≤ x.arrival.time := by
  have hsub : insert x.mark (marksAfter pre key (x.arrival.time - w)) ⊆
      (((pre ++ x :: post).filter fun y => y.arrival.key = key ∧ x.arrival.time - w < y.arrival.time ∧
        y.arrival.time ≤ x.arrival.time).map (·.mark)).toFinset := by
    intro mark hmark
    rw [List.mem_toFinset]
    rcases Finset.mem_insert.mp hmark with rfl | hmark
    · exact List.mem_map_of_mem (List.mem_filter.mpr ⟨by simp, by simp [hkey]; omega⟩)
    · obtain ⟨y, hy, ⟨hykey, hrecent⟩, rfl⟩ := mem_marksAfter.mp hmark
      refine List.mem_map_of_mem (List.mem_filter.mpr ⟨List.mem_append_left _ hy, ?_⟩)
      simp [hykey, hrecent, hordered y hy hykey]
  refine (Finset.card_le_card hsub).trans ((List.toFinset_card_le _).trans ?_)
  rw [List.length_map, List.countP_map, List.countP_eq_length_filter]
  rfl

/-- In any interval as long as the window, no more marks of a key are admitted than the limit, and so no more requests
if no two of them bear the same mark: that is, if none of one microsecond have the same number at different gateways. -/
theorem admitted_marks_le (buffers : Nat → Nat) (expires : Bool) (limit : UInt32) (window : Nat)
    (as : List SharedArrival) (key : String) (hwindow : micros window < 2 ^ 63)
    (hkeeps : (Fleet.start buffers expires).Keeps window) (hclock : ∀ a ∈ as, a.key = key → ClockTime a.time)
    (hordered : (as.filter (·.key = key)).Pairwise (·.time ≤ ·.time))
    (hroom : ∀ t, as.countP (fun a => a.key = key ∧ t - micros window < a.time ∧ a.time ≤ t) < 2 ^ 32) (start : Int) :
    let inside := admittedIn ((Fleet.start buffers expires).recordAll limit window as) key start
      (start + micros window)
    (inside.map (·.mark)).toFinset.card ≤ limit.toNat ∧
      ((inside.map (·.mark)).Nodup → inside.length ≤ limit.toNat) := by
  intro inside
  have hpairs : as.Pairwise fun a b => a.key = key → b.key = key → a.time ≤ b.time := by
    simpa [List.pairwise_filter] using hordered
  have hcard : (inside.map (·.mark)).toFinset.card ≤ limit.toNat := by
    apply card_marks_le
    intro pre x post hsplit hkey hadmitted hw
    have harrivals : as = (pre ++ x :: post).map (·.arrival) := by
      rw [← hsplit, Fleet.arrivals_recordAll]
    have houtcome := Fleet.recordAll_outcome (SetTracks.start key window 0 expires) (fun _ => hkeeps) hwindow hclock
      (fun a ha hakey => (hclock a ha hakey).1) hpairs hsplit hkey
    rw [List.nil_append] at houtcome
    have hbefore : ∀ y ∈ pre, y.arrival.key = key → y.arrival.time ≤ x.arrival.time := by
      intro y hy hykey
      rw [harrivals, List.map_append, List.pairwise_append] at hpairs
      exact hpairs.2.2 y.arrival (List.mem_map_of_mem hy) x.arrival (by simp) hykey hkey
    have hlt : (insert x.mark (marksAfter pre key (x.arrival.time - micros window))).card < UInt32.size :=
      (card_marks_le_countP hw hkey hbefore).trans_lt (harrivals ▸ hroom x.arrival.time)
    rw [houtcome] at hadmitted
    simpa [SharedWindow.outcome, UInt32.le_iff_toNat_le, UInt32.toNat_ofNat_of_lt' hlt] using hadmitted
  refine ⟨hcard, fun hnodup => ?_⟩
  rw [List.toFinset_card_of_nodup hnodup, List.length_map] at hcard
  exact hcard

/-- Two gateways, a minute and a limit of two: the third request of the minute is denied. -/
def threeOfMinute : List SharedArrival :=
  [⟨0, "rl:10.0.0.1", 1000⟩, ⟨1, "rl:10.0.0.1", 1001⟩, ⟨0, "rl:10.0.0.2", 1001⟩, ⟨0, "rl:10.0.0.1", 60000999⟩]

theorem admitted_marks_le_threeOfMinute :
    micros 60000000000 < 2 ^ 63 ∧ (Fleet.start (fun _ => 1000000000) true).Keeps 60000000000 ∧
    (∀ a ∈ threeOfMinute, a.key = "rl:10.0.0.1" → ClockTime a.time) ∧
    (threeOfMinute.filter (·.key = "rl:10.0.0.1")).Pairwise (·.time ≤ ·.time) ∧
    (∀ t, threeOfMinute.countP (fun a => a.key = "rl:10.0.0.1" ∧ t - micros 60000000000 < a.time ∧ a.time ≤ t) <
      2 ^ 32) ∧
    (admittedIn ((Fleet.start (fun _ => 1000000000) true).recordAll 2 60000000000 threeOfMinute) "rl:10.0.0.1" 1000
      60001000).length ≤ 2 ∧
    ((Fleet.start (fun _ => 1000000000) true).recordAll 2 60000000000 threeOfMinute).map (·.outcome) =
      [⟨true, 1⟩, ⟨true, 2⟩, ⟨true, 1⟩, ⟨false, 3⟩] := by
  have hwindow : micros 60000000000 < 2 ^ 63 := by decide
  have hkeeps : (Fleet.start (fun _ => 1000000000) true).Keeps 60000000000 := by
    rw [Fleet.start_keeps]
    intro _ _
    decide
  have hclock : ∀ a ∈ threeOfMinute, a.key = "rl:10.0.0.1" → ClockTime a.time := by
    unfold ClockTime
    decide
  have hordered : (threeOfMinute.filter (·.key = "rl:10.0.0.1")).Pairwise (·.time ≤ ·.time) := by decide
  have hroom : ∀ t, threeOfMinute.countP
      (fun a => a.key = "rl:10.0.0.1" ∧ t - micros 60000000000 < a.time ∧ a.time ≤ t) < 2 ^ 32 :=
    fun _ => List.countP_le_length.trans_lt (by decide)
  have hle := (admitted_marks_le _ _ 2 _ _ _ hwindow hkeeps hclock hordered hroom 1000).2 (by decide)
  exact ⟨hwindow, hkeeps, hclock, hordered, hroom, hle, by decide⟩

/-- The first requests of two gateways in one microsecond bear the same mark, so that both are admitted where the limit
is one; and a window whose microseconds exceed a word begins after the present, so that one gateway admits everything. -/
theorem admitted_beyond_limit :
    (admittedIn ((Fleet.start (fun _ => 1000000000) true).recordAll 1 60000000000
      [⟨0, "rl:10.0.0.1", 1000⟩, ⟨1, "rl:10.0.0.1", 1000⟩]) "rl:10.0.0.1" 1000 (1000 + micros 60000000000)).length = 2 ∧
    (admittedIn ((Fleet.start (fun _ => 0) false).recordAll 1 18446744073709551000000
      [⟨0, "rl:10.0.0.1", 1000⟩, ⟨0, "rl:10.0.0.1", 1001⟩]) "rl:10.0.0.1" 1000
        (1000 + micros 18446744073709551000000)).length = 2 := by
  decide

end CompletionGateway.Admission
