import CompletionGateway.Proofs.Admission.LocalWindow
import CompletionGateway.Proofs.Admission.SharedWindow

/-! The window that gateways share beside that of a single process. The shared one counts denied requests as well, so
whatever it lets in on its own the other lets in too, and what it reports is the number of all requests in the window.
This takes a server that keeps a key until its last request has left the window. One that deletes keys when their time is
over does so where seconds are fine enough: the time of a key is in whole seconds, and the rest is cut off. -/
namespace CompletionGateway.Admission

/-- The outcomes of requests in the window of a single process, at times in nanoseconds. -/
def LocalWindow.hitAll (s : LocalWindow) (limit : UInt32) (window : Nat) : List Arrival → List Outcome
  | [] => []
  | a :: as =>
    let r := s.hit a.time a.key limit window
    r.1 :: r.2.hitAll limit window as

/-- The outcomes of requests to one gateway on a server, at times in microseconds. -/
def SharedWindow.hitAll (s : SharedWindow) (server : SetServer) (limit : UInt32) (window : Nat) :
    List Arrival → List Outcome
  | [] => []
  | a :: as =>
    let r := s.hit server a.time a.key limit window
    r.1 :: r.2.1.hitAll r.2.2 limit window as

/-- The same request, its time being given in nanoseconds instead of microseconds. -/
def Arrival.inNanos (a : Arrival) : Arrival := ⟨a.key, a.time * 1000⟩

/-- The number of earlier requests of the same identity within the window, whatever became of them. -/
def madeWithin (window : Nat) (earlier : List Arrival) (a : Arrival) : Nat :=
  earlier.countP fun b => b.key = a.key ∧ a.time - b.time < window

/-- All requests between two of one microsecond are of that microsecond. -/
lemma length_between_le {a b : Arrival} {as bs : List Arrival}
    (hordered : (a :: (as ++ b :: bs)).Pairwise (·.time ≤ ·.time)) (hba : b.time = a.time) :
    as.length + 2 ≤ (a :: (as ++ b :: bs)).countP (·.time = a.time) := by
  obtain ⟨hfirst, hordered⟩ := List.pairwise_cons.mp hordered
  have hbetween : ∀ c ∈ as, c.time = a.time := by
    intro c hc
    have hle := (List.pairwise_append.mp hordered).2.2 c hc b List.mem_cons_self
    exact le_antisymm (hba ▸ hle) (hfirst c (List.mem_append_left _ hc))
  have hcount : as.countP (·.time = a.time) = as.length :=
    List.countP_eq_length.mpr fun c hc => decide_eq_true (hbetween c hc)
  simp only [List.countP_cons, List.countP_append, hcount, hba, decide_true, if_true]
  omega

/-! ### One gateway of a fleet -/

/-- A request to the only gateway. -/
def Arrival.toFirst (a : Arrival) : SharedArrival := ⟨0, a.key, a.time⟩

lemma Arrival.ordered_toFirst {as : List Arrival} (h : as.Pairwise (·.time ≤ ·.time)) :
    (as.map Arrival.toFirst).Pairwise (·.time ≤ ·.time) := List.pairwise_map.mpr (h.imp fun h => Int.ofNat_le.mpr h)

lemma Arrival.clockTime_toFirst {as : List Arrival} (h : ∀ a ∈ as, a.time < 2 ^ 63) :
    ∀ a ∈ as.map Arrival.toFirst, ClockTime a.time := by
  intro a ha
  obtain ⟨b, hb, rfl⟩ := List.mem_map.mp ha
  have hlt := h b hb
  exact ⟨Int.natCast_nonneg _, by simp only [Arrival.toFirst]; omega⟩

namespace Fleet
variable {f : Fleet} {limit : UInt32} {window : Nat} {as : List Arrival}

lemma gateway_record (f : Fleet) (limit : UInt32) (window : Nat) (a : Arrival) :
    (f.record limit window a.toFirst).2.gateways 0 = (f.gateways 0).advance := by
  simp [record, Arrival.toFirst, SharedWindow.hit]

lemma outcomes_recordAll (f : Fleet) (limit : UInt32) (window : Nat) (as : List Arrival) :
    (f.recordAll limit window (as.map Arrival.toFirst)).map (·.outcome) =
      (f.gateways 0).hitAll f.server limit window as := by
  induction as generalizing f with
  | nil => rfl
  | cons a as ih =>
    rw [List.map_cons, recordAll, List.map_cons, ih, gateway_record]
    rfl

lemma times_recordAll (f : Fleet) (limit : UInt32) (window : Nat) (as : List Arrival) :
    (f.recordAll limit window (as.map Arrival.toFirst)).map (·.arrival.time) = as.map fun a => (a.time : Int) := by
  have harrivals := congrArg (List.map (·.time)) (f.arrivals_recordAll limit window (as.map Arrival.toFirst))
  rwa [List.map_map, List.map_map] at harrivals

lemma sequence_record {n : Nat} (hn : (f.gateways 0).sequence = n % 2 ^ 64) (limit : UInt32) (window : Nat)
    (a : Arrival) : ((f.record limit window a.toFirst).2.gateways 0).sequence = (n + 1) % 2 ^ 64 := by
  rw [gateway_record, SharedWindow.advance, hn, Nat.mod_add_mod]

/-- The gateway numbers its requests one by one. -/
lemma sequence_recordAll {n : Nat} (hn : (f.gateways 0).sequence = n % 2 ^ 64) {pre post : List Recorded} {x : Recorded}
    (hsplit : f.recordAll limit window (as.map Arrival.toFirst) = pre ++ x :: post) :
    x.sequence = (n + pre.length) % 2 ^ 64 := by
  induction as generalizing f n pre with
  | nil => simp [recordAll] at hsplit
  | cons a as ih =>
    cases pre with
    | nil =>
      obtain ⟨rfl, -⟩ := List.cons.inj hsplit
      exact hn
    | cons y pre =>
      obtain ⟨-, htail⟩ := List.cons.inj hsplit
      rw [ih (sequence_record hn limit window a) htail, List.length_cons]
      congr 1
      omega

/-- No two requests bear the same mark as long as there are numbers enough for those of one microsecond. -/
lemma marks_nodup {n : Nat} (hn : (f.gateways 0).sequence = n % 2 ^ 64) (hordered : as.Pairwise (·.time ≤ ·.time))
    (hnumbers : ∀ t, as.countP (·.time = t) ≤ 2 ^ 64) :
    ((f.recordAll limit window (as.map Arrival.toFirst)).map (·.mark)).Nodup := by
  induction as generalizing f n with
  | nil => exact List.nodup_nil
  | cons a as ih =>
    have hnext := sequence_record hn limit window a
    have htail : ∀ t, as.countP (·.time = t) ≤ (a :: as).countP (·.time = t) := fun t =>
      (List.sublist_cons_self a as).countP_le
    rw [List.map_cons, recordAll, List.map_cons, List.nodup_cons]
    refine ⟨?_, ih hnext (List.pairwise_cons.mp hordered).2 fun t => (htail t).trans (hnumbers t)⟩
    intro hmark
    obtain ⟨y, hy, hmark⟩ := List.mem_map.mp hmark
    obtain ⟨pre, post, hsplit⟩ := List.append_of_mem hy
    obtain ⟨htime, hsequence⟩ := Prod.ext_iff.mp hmark
    have hnumber : (n + 1 + pre.length) % 2 ^ 64 = n % 2 ^ 64 :=
      (sequence_recordAll hnext hsplit).symm.trans (hsequence.trans hn)
    -- so many requests lie between the two as it takes to come back to a number
    have htimes := times_recordAll (f.record limit window a.toFirst).2 limit window as
    rw [hsplit, List.map_append, List.map_cons] at htimes
    obtain ⟨as₁, as₂, rfl, hpre, hpost⟩ := List.map_eq_append_iff.mp htimes.symm
    obtain ⟨b, as₃, rfl, hb, -⟩ := List.map_eq_cons_iff.mp hpost
    have hlength : as₁.length = pre.length := by simpa using congrArg List.length hpre
    have hbetween := length_between_le hordered (Int.ofNat_inj.mp (hb.trans htime))
    have hfew := hnumbers a.time
    omega

end Fleet

/-- Where no two requests bear the same mark, as many marks are counted as requests. -/
lemma card_marks_of_nodup {pre post : List Recorded} {x : Recorded} (key : String) (t : Int)
    (h : ((pre ++ x :: post).map (·.mark)).Nodup) :
    (insert x.mark (marksAfter pre key t)).card = pre.countP (fun y => y.arrival.key = key ∧ t < y.arrival.time) + 1 := by
  rw [List.map_append, List.map_cons, List.nodup_append] at h
  obtain ⟨hpre, -, hother⟩ := h
  have hnew : x.mark ∉ marksAfter pre key t := by
    intro hmem
    obtain ⟨y, hy, -, hmark⟩ := mem_marksAfter.mp hmem
    exact hother _ (List.mem_map_of_mem hy) _ List.mem_cons_self hmark
  have hnodup : ((pre.filter fun y => y.arrival.key = key ∧ t < y.arrival.time).map (·.mark)).Nodup :=
    hpre.sublist (List.filter_sublist.map _)
  rw [Finset.card_insert_of_notMem hnew, marksAfter, List.toFinset_card_of_nodup hnodup, List.length_map,
    List.countP_eq_length_filter]

/-! ### One process -/

lemma Policy.admitted_decide (p : Policy) (o : Outcome) : (p.decide (.ok o)).admitted = o.admitted := by
  cases h : o.admitted <;> simp [Policy.decide, h]

lemma Policy.admitted_decideAll (p : Policy) (s : LocalWindow) (as : List Arrival) :
    (p.decideAll s as).map (·.decision.admitted) = (s.hitAll p.limit p.window as).map (·.admitted) := by
  induction as generalizing s with
  | nil => rfl
  | cons a as ih =>
    rw [decideAll, List.map_cons, ih, LocalWindow.hitAll, List.map_cons]
    exact congrArg (· :: _) (p.admitted_decide _)

/-- No more requests were let in than made. -/
lemma Policy.admittedWithin_le (window : Nat) (vs : List Verdict) (a : Arrival) :
    admittedWithin window vs a ≤ madeWithin window (vs.map (·.arrival)) a := by
  rw [admittedWithin, madeWithin, List.countP_map]
  apply List.countP_mono_left
  intro v _ hv
  simp only [decide_eq_true_eq, Function.comp_apply] at hv ⊢
  exact hv.2

/-- The window of a single process lets a request in if fewer than the limit were made within the window. -/
lemma LocalWindow.admits_hitAll {limit : UInt32} {window : Nat} {pre post : List Arrival} {a : Arrival}
    (hordered : (pre ++ a :: post).Pairwise (·.time ≤ ·.time)) (hroom : madeWithin window pre a < limit.toNat) :
    ((LocalWindow.empty.hitAll limit window (pre ++ a :: post)).map (·.admitted))[pre.length]? = some true := by
  have harrivals := Policy.arrivals_countAll ⟨limit, window⟩ [] (pre ++ a :: post)
  obtain ⟨vs, ws, hsplit, rfl, hws⟩ := List.map_eq_append_iff.mp harrivals
  obtain ⟨v, ws, rfl, rfl, -⟩ := List.map_eq_cons_iff.mp hws
  have hadmitted : v.decision.admitted = true := by
    rw [Policy.countAll_split _ hsplit, Policy.admitted_verdict]
    exact (Policy.admittedWithin_le window vs v.arrival).trans_lt hroom
  rw [← Policy.admitted_decideAll ⟨limit, window⟩, Policy.decideAll_empty _ hordered, hsplit]
  simp [hadmitted]

/-! ### Both -/

/-- Requests to one gateway and to a single process, with the same limit and the same window in microseconds. -/
structure Contained (limit : UInt32) (window : Nat) (as : List Arrival) (shared single : List Outcome) : Prop where
  /-- Whatever the gateway lets in, the process lets in. -/
  admits : List.Forall₂ (fun o o' => o.admitted = true → o'.admitted = true) shared single
  /-- The gateway reports the number of all requests of the identity in the window, the last one included, and lets the
  request in if this is within the limit. -/
  counts : ∀ pre a post, as = pre ++ a :: post → ∃ o, shared[pre.length]? = some o ∧
    o.count.toNat = madeWithin window pre a + 1 ∧ (o.admitted = true ↔ madeWithin window pre a < limit.toNat)

/-- In the order of time, the requests that count are those after the start of the window. -/
lemma madeWithin_eq {window : Nat} {pre : List Arrival} {a : Arrival} (h : ∀ b ∈ pre, b.time ≤ a.time) :
    madeWithin window pre a = pre.countP fun b => b.key = a.key ∧ (a.time : Int) - window < b.time := by
  apply List.countP_congr
  intro b hb
  have hle := h b hb
  simp only [decide_eq_true_eq]
  refine and_congr_right fun _ => ?_
  omega

/-- No more requests count than a window has. -/
lemma madeWithin_lt {window : Nat} {pre post : List Arrival} {a : Arrival}
    (hordered : (pre ++ a :: post).Pairwise (·.time ≤ ·.time))
    (hroom : (pre ++ a :: post).countP (fun b => b.key = a.key ∧ b.time ≤ a.time ∧ a.time - b.time < window) < 2 ^ 32) :
    madeWithin window pre a + 1 < UInt32.size := by
  rcases Nat.eq_zero_or_pos window with rfl | hpos
  · simp [madeWithin, UInt32.size]
  · refine lt_of_le_of_lt ?_ hroom
    have hpre : madeWithin window pre a ≤
        pre.countP fun b => b.key = a.key ∧ b.time ≤ a.time ∧ a.time - b.time < window := by
      apply List.countP_mono_left
      intro b hb hwithin
      simp only [decide_eq_true_eq] at hwithin ⊢
      exact ⟨hwithin.1, (List.pairwise_append.mp hordered).2.2 b hb a List.mem_cons_self, hwithin.2⟩
    rw [List.countP_append, List.countP_cons_of_pos (by simpa using hpos)]
    omega

/-- The window means the same in nanoseconds. -/
lemma madeWithin_inNanos (window : Nat) (pre : List Arrival) (a : Arrival) :
    madeWithin (window * 1000) (pre.map Arrival.inNanos) a.inNanos = madeWithin window pre a := by
  rw [madeWithin, List.countP_map, madeWithin]
  apply List.countP_congr
  intro b _
  simp only [Function.comp_apply, decide_eq_true_eq]
  refine and_congr_right fun _ => ?_
  unfold Arrival.inNanos
  dsimp only
  omega

/-- Requests in the order of time and at times that a clock shows, with room to count those of an identity in a window and
numbers enough for those of one microsecond. -/
structure Orderly (window : Nat) (as : List Arrival) : Prop where
  ordered : as.Pairwise (·.time ≤ ·.time)
  clock : ∀ a ∈ as, a.time < 2 ^ 63
  room : ∀ key t, as.countP (fun a => a.key = key ∧ a.time ≤ t ∧ t - a.time < window) < 2 ^ 32
  numbers : ∀ t, as.countP (·.time = t) ≤ 2 ^ 64

lemma orderly_of_few {window : Nat} {as : List Arrival} (hordered : as.Pairwise (·.time ≤ ·.time))
    (hclock : ∀ a ∈ as, a.time < 2 ^ 63) (hfew : as.length < 2 ^ 32) : Orderly window as :=
  ⟨hordered, hclock, fun _ _ => List.countP_le_length.trans_lt hfew,
    fun _ => List.countP_le_length.trans (hfew.le.trans (by decide))⟩

/-- Keys are kept for ever, or at least until the window, in microseconds, is over. -/
def KeysOutlast (buffer : Nat) (expires : Bool) (window : Nat) : Prop :=
  expires = true → 0 < window → (window : Int) ≤ (SharedWindow.mk buffer 0).expiry (window * 1000) * 1000000

/-- What a gateway is told are all requests in the window, as long as it has numbers enough for those of one
microsecond. -/
lemma SharedWindow.counts_hitAll {buffer : Nat} {expires : Bool} {limit : UInt32} {window : Nat}
    {pre post : List Arrival} {a : Arrival} (has : Orderly window (pre ++ a :: post)) (hwindow : window < 2 ^ 63)
    (hkeeps : KeysOutlast buffer expires window) :
    ((SharedWindow.mk buffer 0).hitAll ⟨.empty, expires⟩ limit (window * 1000) (pre ++ a :: post))[pre.length]? =
      some (SharedWindow.outcome limit (UInt32.ofNat (madeWithin window pre a + 1))) := by
  set f := Fleet.start (fun _ => buffer) expires with hf
  have hmicros : micros (window * 1000) = window := by
    unfold micros
    omega
  have hordered' : ((pre ++ a :: post).map Arrival.toFirst).Pairwise
      fun b c => b.key = a.key → c.key = a.key → b.time ≤ c.time :=
    (Arrival.ordered_toFirst has.ordered).imp fun h _ _ => h
  have hclock' := Arrival.clockTime_toFirst has.clock
  have harrivals := f.arrivals_recordAll limit (window * 1000) ((pre ++ a :: post).map Arrival.toFirst)
  rw [List.map_append, List.map_cons] at harrivals
  obtain ⟨log, rest, hlog, hpre, hrest⟩ := List.map_eq_append_iff.mp harrivals
  obtain ⟨x, rest, rfl, hx, -⟩ := List.map_eq_cons_iff.mp hrest
  rw [← List.map_cons, ← List.map_append] at hlog
  have hkey : x.arrival.key = a.key := by rw [hx]; rfl
  have htime : x.arrival.time = a.time := by rw [hx]; rfl
  have hcount : log.countP (fun y => y.arrival.key = a.key ∧ (a.time : Int) - window < y.arrival.time) =
      madeWithin window pre a := by
    have hbefore : ∀ b ∈ pre, b.time ≤ a.time := fun b hb =>
      (List.pairwise_append.mp has.ordered).2.2 b hb a List.mem_cons_self
    have hboth := congrArg
      (List.countP fun b : SharedArrival => b.key = a.key ∧ (a.time : Int) - window < b.time) hpre
    rw [List.countP_map, List.countP_map] at hboth
    rw [madeWithin_eq hbefore]
    exact hboth
  have houtcome := Fleet.recordAll_outcome (SetTracks.start a.key (window * 1000) 0 expires)
    (f := f) (fun hpos => Fleet.start_keeps.mpr fun h _ => hmicros.symm ▸ hkeeps h (by omega)) (hmicros.symm ▸ by omega)
    (fun b hb _ => hclock' b hb) (fun b hb _ => (hclock' b hb).1) hordered' hlog hkey
  have hnodup : ((log ++ x :: rest).map (·.mark)).Nodup :=
    hlog ▸ Fleet.marks_nodup (n := 0) rfl has.ordered has.numbers
  rw [List.nil_append, htime, hmicros, card_marks_of_nodup _ _ hnodup, hcount] at houtcome
  have houtcomes := Fleet.outcomes_recordAll f limit (window * 1000) (pre ++ a :: post)
  have hlength : log.length = pre.length := by simpa using congrArg List.length hpre
  rw [hlog] at houtcomes
  have hgateway : f.gateways 0 = ⟨buffer, 0⟩ := rfl
  have hserver : f.server = ⟨.empty, expires⟩ := rfl
  rw [← hgateway, ← hserver, ← houtcomes, ← hlength]
  simp [houtcome]

lemma SharedWindow.length_hitAll (s : SharedWindow) (server : SetServer) (limit : UInt32) (window : Nat)
    (as : List Arrival) : (s.hitAll server limit window as).length = as.length := by
  induction as generalizing s server with
  | nil => rfl
  | cons a as ih => rw [hitAll, List.length_cons, ih, List.length_cons]

lemma LocalWindow.length_hitAll (s : LocalWindow) (limit : UInt32) (window : Nat) (as : List Arrival) :
    (s.hitAll limit window as).length = as.length := by
  induction as generalizing s with
  | nil => rfl
  | cons a as ih => rw [hitAll, List.length_cons, ih, List.length_cons]

/-- The window that gateways share is never more permissive than that of a single process if keys outlast it. -/
lemma contained_of_keysOutlast {buffer : Nat} {expires : Bool} {window : Nat} {as : List Arrival} (limit : UInt32)
    (has : Orderly window as) (hwindow : window < 2 ^ 63) (hkeeps : KeysOutlast buffer expires window) :
    Contained limit window as ((SharedWindow.mk buffer 0).hitAll ⟨.empty, expires⟩ limit (window * 1000) as)
      (LocalWindow.empty.hitAll limit (window * 1000) (as.map Arrival.inNanos)) := by
  have hcounts : ∀ pre a post, as = pre ++ a :: post → ∃ o,
      ((SharedWindow.mk buffer 0).hitAll ⟨.empty, expires⟩ limit (window * 1000) as)[pre.length]? = some o ∧
      o.count.toNat = madeWithin window pre a + 1 ∧
      (o.admitted = true ↔ madeWithin window pre a < limit.toNat) := by
    rintro pre a post rfl
    have hlt := madeWithin_lt has.ordered (has.room a.key a.time)
    refine ⟨_, SharedWindow.counts_hitAll has hwindow hkeeps, ?_, ?_⟩
    · exact UInt32.toNat_ofNat_of_lt' hlt
    · simp only [SharedWindow.outcome, decide_eq_true_eq, UInt32.le_iff_toNat_le, UInt32.toNat_ofNat_of_lt' hlt]
      omega
  refine ⟨List.forall₂_iff_get.mpr ⟨?_, ?_⟩, hcounts⟩
  · rw [SharedWindow.length_hitAll, LocalWindow.length_hitAll, List.length_map]
  · intro i hi hi' hadmitted
    rw [SharedWindow.length_hitAll] at hi
    have hsplit : as = as.take i ++ as[i] :: as.drop (i + 1) := by
      rw [← List.drop_eq_getElem_cons hi, List.take_append_drop]
    have htake : (as.take i).length = i := List.length_take_of_le hi.le
    obtain ⟨o, ho, -, hlimit⟩ := hcounts _ _ _ hsplit
    rw [htake, List.getElem?_eq_some_iff] at ho
    have hshared : o.admitted = true := ho.2 ▸ hadmitted
    have hnanos : as.map Arrival.inNanos =
        (as.take i).map Arrival.inNanos ++ as[i].inNanos :: (as.drop (i + 1)).map Arrival.inNanos := by
      rw [← List.map_cons, ← List.map_append, ← hsplit]
    have hordered' : (as.map Arrival.inNanos).Pairwise (·.time ≤ ·.time) :=
      List.pairwise_map.mpr (has.ordered.imp fun h => Nat.mul_le_mul_right 1000 h)
    have hroom' : madeWithin (window * 1000) ((as.take i).map Arrival.inNanos) as[i].inNanos < limit.toNat := by
      rw [madeWithin_inNanos]
      exact hlimit.mp hshared
    rw [hnanos] at hordered'
    have hlocal := LocalWindow.admits_hitAll hordered' hroom'
    rw [← hnanos, List.length_map, htake, List.getElem?_map, Option.map_eq_some_iff] at hlocal
    obtain ⟨o', ho', hadmits⟩ := hlocal
    rw [← (List.getElem?_eq_some_iff.mp ho').2] at hadmits
    exact hadmits

/-! ### Keys that are deleted too early -/

/-- A request that finds nothing on record counts itself only. -/
lemma SharedWindow.hit_alone {s : SharedWindow} {server : SetServer} {now : Int} {key : String} (limit : UInt32)
    (window : Nat) (h : (server.lookup now key).members = []) :
    (s.hit server now key limit window).1 = outcome limit 1 := by
  have hcount := (server.runAll_record now key 0 (windowStart now window) (s.member now) now (s.expiry window)).1
  rw [SetServer.afterwards, h] at hcount
  exact congrArg (fun n : Option Nat => outcome limit (UInt32.ofNat (n.getD 0))) hcount

/-- A request that comes when the time of its key is over finds nothing on record. -/
lemma SharedWindow.hitAll_forgetful {buffer window : Nat} {key : String} {t t' : Nat} (limit : UInt32)
    (hover : (t : Int) + (SharedWindow.mk buffer 0).expiry window * 1000000 ≤ t') :
    (SharedWindow.mk buffer 0).hitAll ⟨.empty, true⟩ limit window [⟨key, t⟩, ⟨key, t'⟩] =
      [SharedWindow.outcome limit 1, SharedWindow.outcome limit 1] := by
  set s := SharedWindow.mk buffer 0
  have hrecord := (SetServer.runAll_record ⟨.empty, true⟩ t key 0 (windowStart t window) (s.member t) t
    (s.expiry window)).2.2 t' key
  have hnone : ((s.hit ⟨.empty, true⟩ t key limit window).2.2.lookup t' key).members = [] := by
    refine (congrArg SortedSet.members hrecord).trans ?_
    rw [if_pos rfl, SortedSet.members_seen, if_pos ⟨rfl, hover⟩]
  rw [hitAll, hitAll, hitAll, hit_alone limit window rfl, hit_alone limit window hnone]

/-- With a limit of one, a single process denies the second request of a window. -/
lemma LocalWindow.hitAll_second {window : Nat} {key : String} {t t' : Nat} (hle : t ≤ t') (hwithin : t' - t < window) :
    (LocalWindow.empty.hitAll 1 window [⟨key, t⟩, ⟨key, t'⟩]).map (·.admitted) = [true, false] := by
  have hordered : ([⟨key, t⟩, ⟨key, t'⟩] : List Arrival).Pairwise (·.time ≤ ·.time) := by simpa using hle
  have hdecisions := Policy.admitted_decideAll ⟨1, window⟩ .empty [⟨key, t⟩, ⟨key, t'⟩]
  rw [Policy.decideAll_empty _ hordered] at hdecisions
  rw [← hdecisions]
  simp [Policy.countAll, Policy.verdict, admittedWithin, hwithin]

/-- Seconds are fine enough for a short window, for one of whole seconds, and where the buffer makes up for the part of
the window that is cut off. -/
lemma keysOutlast_iff {buffer window : Nat} (hsum : (window * 1000 + buffer) / 1000000000 < 2 ^ 63) :
    KeysOutlast buffer true window ↔
      window ≤ 1000000 ∨ window % 1000000 = 0 ∨ 1000000000 ≤ window % 1000000 * 1000 + buffer := by
  have hexpiry : (SharedWindow.mk buffer 0).expiry (window * 1000) =
      max (((window * 1000 + buffer) / 1000000000 : Nat) : Int) 1 := by
    unfold SharedWindow.expiry
    dsimp only
    rw [wrap64_eq (by omega) (by omega)]
    push_cast
    rfl
  simp only [KeysOutlast, hexpiry, forall_const]
  omega

/-- If a key may be deleted while its last request is in the window, the second request of the window is let in as if it
were the first. -/
lemma not_contained_of_not_keysOutlast {buffer : Nat} {expires : Bool} {window : Nat} (hwindow : window < 2 ^ 63)
    (h : ¬ KeysOutlast buffer expires window) : ∃ as, Orderly window as ∧
      (SharedWindow.mk buffer 0).hitAll ⟨.empty, expires⟩ 1 (window * 1000) as = [⟨true, 1⟩, ⟨true, 1⟩] ∧
      (LocalWindow.empty.hitAll 1 (window * 1000) (as.map Arrival.inNanos)).map (·.admitted) = [true, false] := by
  simp only [KeysOutlast, not_forall, not_le] at h
  obtain ⟨rfl, hpos, hshort⟩ := h
  -- the moment at which the key of a request made at 0 is deleted
  set deadline := ((SharedWindow.mk buffer 0).expiry (window * 1000) * 1000000).toNat with hdeadline
  have hwithin : deadline < window := by omega
  refine ⟨[⟨"", 0⟩, ⟨"", deadline⟩], orderly_of_few ?_ ?_ (show 2 < 2 ^ 32 by decide), ?_, ?_⟩
  · simp
  · have hclock : deadline < 2 ^ 63 := hwithin.trans hwindow
    simpa using hclock
  · exact SharedWindow.hitAll_forgetful 1 (by omega)
  · have hnanos : [⟨"", 0⟩, ⟨"", deadline⟩].map Arrival.inNanos = [⟨"", 0 * 1000⟩, ⟨"", deadline * 1000⟩] := rfl
    rw [hnanos]
    exact LocalWindow.hitAll_second (by omega) (by omega)

/-- On a server that keeps keys long enough, a gateway lets in nothing that a single process denies, and counts all
requests in the window. On any other, it lets in two requests of a window at a limit of one. The time of a key is long
enough for windows of up to a second and of whole seconds, and for others only if the buffer fills up the last second. -/
theorem containment_exact (buffer : Nat) (expires : Bool) (window : Nat) (hwindow : window < 2 ^ 63) :
    (KeysOutlast buffer expires window → ∀ limit as, Orderly window as →
      Contained limit window as ((SharedWindow.mk buffer 0).hitAll ⟨.empty, expires⟩ limit (window * 1000) as)
        (LocalWindow.empty.hitAll limit (window * 1000) (as.map Arrival.inNanos))) ∧
    (¬ KeysOutlast buffer expires window → ∃ as, Orderly window as ∧
      (SharedWindow.mk buffer 0).hitAll ⟨.empty, expires⟩ 1 (window * 1000) as = [⟨true, 1⟩, ⟨true, 1⟩] ∧
      (LocalWindow.empty.hitAll 1 (window * 1000) (as.map Arrival.inNanos)).map (·.admitted) = [true, false]) ∧
    ((window * 1000 + buffer) / 1000000000 < 2 ^ 63 → (KeysOutlast buffer true window ↔
      window ≤ 1000000 ∨ window % 1000000 = 0 ∨ 1000000000 ≤ window % 1000000 * 1000 + buffer)) :=
  ⟨fun hkeeps limit _ has => contained_of_keysOutlast limit has hwindow hkeeps,
    not_contained_of_not_keysOutlast hwindow, keysOutlast_iff⟩

/-- Two requests of a microsecond and one at the very end of the window. -/
def atTheEdge : List Arrival := [⟨"rl:a", 5⟩, ⟨"rl:b", 5⟩, ⟨"rl:a", 5⟩, ⟨"rl:a", 9⟩, ⟨"rl:a", 15⟩]

/-- With a limit of one, the gateway denies at the end of the window what the process lets in: it counts the denied. -/
theorem containment_exact_atTheEdge :
    10 < 2 ^ 63 ∧ KeysOutlast 0 true 10 ∧ Orderly 10 atTheEdge ∧
    Contained 1 10 atTheEdge ((SharedWindow.mk 0 0).hitAll ⟨.empty, true⟩ 1 10000 atTheEdge)
      (LocalWindow.empty.hitAll 1 10000 (atTheEdge.map Arrival.inNanos)) ∧
    (SharedWindow.mk 0 0).hitAll ⟨.empty, true⟩ 1 10000 atTheEdge =
      [⟨true, 1⟩, ⟨true, 1⟩, ⟨false, 2⟩, ⟨false, 3⟩, ⟨false, 2⟩] ∧
    LocalWindow.empty.hitAll 1 10000 (atTheEdge.map Arrival.inNanos) =
      [⟨true, 1⟩, ⟨true, 1⟩, ⟨false, 1⟩, ⟨false, 1⟩, ⟨true, 1⟩] := by
  have hexact := containment_exact 0 true 10 (by decide)
  have hkeeps : KeysOutlast 0 true 10 := (hexact.2.2 (by decide)).mpr (.inl (by decide))
  have horderly : Orderly 10 atTheEdge := orderly_of_few (by decide) (by decide) (by decide)
  exact ⟨by decide, hkeeps, horderly, hexact.1 hkeeps 1 atTheEdge horderly, by decide, by decide⟩

/-- A window of a second and a half, and two requests of one identity in it. -/
def afterTheDeadline : List Arrival := [⟨"rl:a", 0⟩, ⟨"rl:a", 1200000⟩]

/-- Without a buffer the key is deleted after one second, and the second request of the window is let in and counted as
the first. -/
theorem admitted_afterTheDeadline :
    Orderly 1500000 afterTheDeadline ∧
    (SharedWindow.mk 0 0).transaction 0 "rl:a" 1500000000 =
      [.removeByScore "rl:a" 0 (-1500000), .add "rl:a" "0-0" 0, .cardinality "rl:a", .expire "rl:a" 1] ∧
    (SharedWindow.mk 0 0).hitAll ⟨.empty, true⟩ 1 1500000000 afterTheDeadline = [⟨true, 1⟩, ⟨true, 1⟩] ∧
    LocalWindow.empty.hitAll 1 1500000000 (afterTheDeadline.map Arrival.inNanos) = [⟨true, 1⟩, ⟨false, 1⟩] ∧
    ¬ Contained 1 1500000 afterTheDeadline
      ((SharedWindow.mk 0 0).hitAll ⟨.empty, true⟩ 1 1500000000 afterTheDeadline)
      (LocalWindow.empty.hitAll 1 1500000000 (afterTheDeadline.map Arrival.inNanos)) := by
  have hshared : (SharedWindow.mk 0 0).hitAll ⟨.empty, true⟩ 1 1500000000 afterTheDeadline = [⟨true, 1⟩, ⟨true, 1⟩] := by
    decide
  have hlocal : LocalWindow.empty.hitAll 1 1500000000 (afterTheDeadline.map Arrival.inNanos) =
      [⟨true, 1⟩, ⟨false, 1⟩] := by decide
  refine ⟨orderly_of_few (by decide) (by decide) (by decide), by decide, hshared, hlocal, ?_⟩
  rw [hshared, hlocal]
  intro h
  simpa using h.admits

end CompletionGateway.Admission
