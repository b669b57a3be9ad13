import CompletionGateway.Admission.Controller
import CompletionGateway.Proofs.Association

/-! The window of a single process against the log of what it admitted. It forgets nothing that still counts, so its
decisions are those of a policy that counts everything ever admitted, however many identities there are. -/
namespace CompletionGateway.Admission

/-- A request of an identity for admission. -/
structure Arrival where
  key : String
  time : Nat
  deriving DecidableEq, Repr

namespace LocalWindow

/-- The times of an identity's requests in a log. -/
def timesOf (log : List Arrival) (key : String) : List Nat := (log.filter (·.key = key)).map (·.time)

/-- Those of them in the window that ends now. -/
def recentOf (log : List Arrival) (now window : Nat) (key : String) : List Nat :=
  (timesOf log key).filter (isRecent now window)

lemma timesOf_snoc (log : List Arrival) (a : Arrival) (key : String) :
    timesOf (log ++ [a]) key = timesOf log key ++ if a.key = key then [a.time] else [] := by
  by_cases h : a.key = key <;> simp [timesOf, h]

/-- What is recent later on is recent now. -/
lemma filter_recent_later {now t : Nat} (h : now ≤ t) (window : Nat) (times : List Nat) :
    (times.filter (isRecent now window)).filter (isRecent t window) = times.filter (isRecent t window) := by
  rw [List.filter_filter]
  apply List.filter_congr
  intro x _
  simp only [isRecent, Bool.and_eq_left_iff_imp, decide_eq_true_eq]
  omega

/-- Times in order are all outside the window if the last one is. -/
lemma filter_recent_of_not_active {now window : Nat} {times : List Nat} (hs : times.Pairwise (· ≤ ·))
    (h : isActive now window times = false) : times.filter (isRecent now window) = [] := by
  induction times using List.reverseRecOn with
  | nil => rfl
  | append_singleton times last _ =>
    have hlast : isRecent now window last = false := by simpa [isActive] using h
    have hle : ∀ t ∈ times, t ≤ last := fun t ht => (List.pairwise_append.mp hs).2.2 t ht last (by simp)
    rw [List.filter_eq_nil_iff]
    intro t ht
    have ht : t ≤ last := by
      rcases List.mem_append.mp ht with ht | ht
      · exact hle t ht
      · exact (List.mem_singleton.mp ht).le
    simp only [isRecent, decide_eq_false_iff_not, decide_eq_true_eq] at hlast ⊢
    omega

/-! ### What is held -/

/-- A window holds what its log says. -/
structure Tracks (window : Nat) (log : List Arrival) (now : Nat) (s : LocalWindow) : Prop where
  distinct : s.clients.Distinct
  ordered : log.Pairwise (·.time ≤ ·.time)
  past : ∀ a ∈ log, a.time ≤ now
  /-- What is held was admitted. -/
  held : ∀ {key times}, s.clients.find? key = some times → times.Sublist (timesOf log key)
  /-- What was admitted is held until it has left the window. -/
  kept : ∀ key, ((s.clients.find? key).getD []).filter (isRecent now window) = recentOf log now window key

variable {window now t : Nat} {log : List Arrival} {s : LocalWindow}

lemma tracks_empty (window now : Nat) : Tracks window [] now empty :=
  ⟨Association.distinct_empty, .nil, by simp, by simp [empty], by simp [empty, recentOf, timesOf]⟩

lemma Tracks.times_ordered (h : Tracks window log now s) {key : String} {times : List Nat}
    (hfind : s.clients.find? key = some times) : times.Pairwise (· ≤ ·) :=
  (List.pairwise_map.mpr (h.ordered.filter _)).sublist (h.held hfind)

lemma Tracks.later (h : Tracks window log now s) (ht : now ≤ t) : Tracks window log t s := by
  refine ⟨h.distinct, h.ordered, fun a ha => (h.past a ha).trans ht, h.held, ?_⟩
  intro key
  rw [← filter_recent_later ht, h.kept, recentOf, filter_recent_later ht]
  rfl

/-- Dropping idle identities loses no time that still counts. -/
lemma Tracks.tidy (h : Tracks window log now s) :
    (s.tidy now window).Distinct ∧
    (∀ {key times}, (s.tidy now window).find? key = some times → s.clients.find? key = some times) ∧
    ∀ key, (((s.tidy now window).find? key).getD []).filter (isRecent now window) = recentOf log now window key := by
  unfold LocalWindow.tidy
  split
  · refine ⟨h.distinct.retain _, ?_, ?_⟩
    · intro key times htimes
      rw [h.distinct.find?_retain] at htimes
      exact (Option.filter_eq_some_iff.mp htimes).1
    · intro key
      rw [← h.kept key, h.distinct.find?_retain]
      cases hfind : s.clients.find? key with
      | none => rfl
      | some times =>
        cases hactive : isActive now window times with
        | true => rw [Option.filter_some_pos hactive]
        | false =>
          rw [Option.filter_some_neg (by simp [hactive]), Option.getD_some,
            filter_recent_of_not_active (h.times_ordered hfind) hactive]
          rfl
  · exact ⟨h.distinct, id, h.kept⟩

/-- What a request enters for its identity has to agree with the log, and what is held for others as well. -/
lemma tracks_insert {clients : Association String (List Nat)} {key : String} {times : List Nat}
    (hdistinct : clients.Distinct) (hordered : log.Pairwise (·.time ≤ ·.time)) (hpast : ∀ a ∈ log, a.time ≤ now)
    (hsub : times.Sublist (timesOf log key))
    (hrecent : times.filter (isRecent now window) = recentOf log now window key)
    (hheld : ∀ {key' times'}, key' ≠ key → clients.find? key' = some times' → times'.Sublist (timesOf log key'))
    (hkept : ∀ {key'}, key' ≠ key →
      ((clients.find? key').getD []).filter (isRecent now window) = recentOf log now window key') :
    Tracks window log now ⟨clients.insert key times⟩ := by
  refine ⟨hdistinct.insert key times, hordered, hpast, ?_, ?_⟩
  · intro key' times' htimes
    rw [Association.find?_insert] at htimes
    split at htimes
    · rename_i hkey
      rw [← Option.some.inj htimes, hkey]
      exact hsub
    · exact hheld ‹_› htimes
  · intro key'
    rw [Association.find?_insert]
    split
    · rename_i hkey
      rw [Option.getD_some, hkey, hrecent]
    · exact hkept ‹_›

/-- With as many admitted requests in the window as the limit allows, only what is held is brought up to date. -/
lemma Tracks.hit_full (h : Tracks window log now s) (key : String) {limit : UInt32}
    (hfull : limit.toNat ≤ (recentOf log now window key).length) :
    s.hit now key limit window = (⟨false, UInt32.ofNat (recentOf log now window key).length⟩,
      ⟨(s.tidy now window).insert key (recentOf log now window key)⟩) := by
  obtain ⟨-, -, hkept⟩ := h.tidy
  rw [LocalWindow.hit, hkept, if_pos hfull]

/-- With fewer of them, the request is entered. -/
lemma Tracks.hit_room (h : Tracks window log now s) (key : String) {limit : UInt32}
    (hroom : (recentOf log now window key).length < limit.toNat) :
    s.hit now key limit window = (⟨true, UInt32.ofNat (recentOf log now window key ++ [now]).length⟩,
      ⟨(s.tidy now window).insert key (recentOf log now window key ++ [now])⟩) := by
  obtain ⟨-, -, hkept⟩ := h.tidy
  rw [LocalWindow.hit, hkept, if_neg (Nat.not_le.mpr hroom)]

/-- With as many admitted requests in the window as the limit allows, the next one leaves no trace. -/
lemma Tracks.hit_denied (h : Tracks window log now s) (key : String) {limit : UInt32}
    (hfull : limit.toNat ≤ (recentOf log now window key).length) :
    (s.hit now key limit window).1 = ⟨false, UInt32.ofNat (recentOf log now window key).length⟩ ∧
      Tracks window log now (s.hit now key limit window).2 := by
  obtain ⟨hdistinct, hfound, hkept⟩ := h.tidy
  rw [h.hit_full key hfull]
  exact ⟨rfl, tracks_insert hdistinct h.ordered h.past List.filter_sublist
    (filter_recent_later (le_refl now) window _) (fun _ htimes => h.held (hfound htimes)) fun _ => hkept _⟩

/-- With fewer of them, the next one is admitted and goes on record. -/
lemma Tracks.hit_admitted (h : Tracks window log now s) (key : String) {limit : UInt32}
    (hroom : (recentOf log now window key).length < limit.toNat) :
    (s.hit now key limit window).1 = ⟨true, UInt32.ofNat ((recentOf log now window key).length + 1)⟩ ∧
      Tracks window (log ++ [⟨key, now⟩]) now (s.hit now key limit window).2 := by
  obtain ⟨hdistinct, hfound, hkept⟩ := h.tidy
  have hother : ∀ {key'}, key' ≠ key → timesOf (log ++ [⟨key, now⟩]) key' = timesOf log key' := by
    intro key' hkey
    rw [timesOf_snoc, if_neg (Ne.symm hkey), List.append_nil]
  have hsame : timesOf (log ++ [⟨key, now⟩]) key = timesOf log key ++ [now] := by
    rw [timesOf_snoc, if_pos rfl]
  rw [h.hit_room key hroom]
  refine ⟨by rw [List.length_append, List.length_singleton], tracks_insert hdistinct ?_ ?_ ?_ ?_ ?_ ?_⟩
  · rw [List.pairwise_append]
    exact ⟨h.ordered, List.pairwise_singleton _ _, fun a ha b hb => List.mem_singleton.mp hb ▸ h.past a ha⟩
  · intro a ha
    rcases List.mem_append.mp ha with ha | ha
    · exact h.past a ha
    · exact List.mem_singleton.mp ha ▸ le_refl now
  · rw [hsame]
    exact List.filter_sublist.append_right _
  · rw [recentOf, recentOf, hsame, List.filter_append, List.filter_append, filter_recent_later (le_refl now)]
  · intro key' times' hkey htimes
    rw [hother hkey]
    exact h.held (hfound htimes)
  · intro key' hkey
    rw [hkept, recentOf, recentOf, hother hkey]

end LocalWindow

/-! ### Decisions -/

/-- A request and the decision on it. -/
structure Verdict where
  arrival : Arrival
  decision : Decision
  deriving DecidableEq, Repr

/-- Check and record a request in the window of a single process. -/
def Policy.allow (p : Policy) (s : LocalWindow) (a : Arrival) : Decision × LocalWindow :=
  let r := s.hit a.time a.key p.limit p.window
  (p.decide (.ok r.1), r.2)

/-- The decisions on requests that come one after the other. -/
def Policy.decideAll (p : Policy) (s : LocalWindow) : List Arrival → List Verdict
  | [] => []
  | a :: as => ⟨a, (p.allow s a).1⟩ :: p.decideAll (p.allow s a).2 as

/-- The number of earlier requests of the same identity that were admitted within the window. -/
def admittedWithin (window : Nat) (earlier : List Verdict) (a : Arrival) : Nat :=
  earlier.countP fun v => v.decision.admitted ∧ v.arrival.key = a.key ∧ a.time - v.arrival.time < window

/-- The decision on a request when so many others count. -/
def Policy.verdict (p : Policy) (n : Nat) : Decision :=
  if n < p.limit.toNat then ⟨true, p.limit, p.limit - UInt32.ofNat (n + 1), none⟩
  else ⟨false, p.limit, 0, some p.window⟩

/-- The decisions of a policy that counts everything ever admitted. -/
def Policy.countAll (p : Policy) (earlier : List Verdict) : List Arrival → List Verdict
  | [] => []
  | a :: as =>
    let v : Verdict := ⟨a, p.verdict (admittedWithin p.window earlier a)⟩
    v :: p.countAll (earlier ++ [v]) as

namespace Policy
variable (p : Policy)

lemma admitted_verdict (n : Nat) : (p.verdict n).admitted = true ↔ n < p.limit.toNat := by
  unfold verdict
  split <;> simp_all

lemma decide_admitted {count : UInt32} (h : count ≤ p.limit) :
    p.decide (.ok ⟨true, count⟩) = ⟨true, p.limit, p.limit - count, none⟩ := by
  simp [decide, h]

/-- The requests that were admitted. -/
def admitted (vs : List Verdict) : List Arrival := (vs.filter (·.decision.admitted)).map (·.arrival)

lemma length_recentOf (vs : List Verdict) (a : Arrival) :
    (LocalWindow.recentOf (admitted vs) a.time p.window a.key).length = admittedWithin p.window vs a := by
  rw [LocalWindow.recentOf, LocalWindow.timesOf, admitted, admittedWithin, List.countP_eq_length_filter]
  simp only [List.filter_map, List.length_map, List.filter_filter, Function.comp_def, LocalWindow.isRecent]
  congr 1
  apply List.filter_congr
  intro v _
  rw [Bool.eq_iff_iff]
  simp only [Bool.and_eq_true, decide_eq_true_eq]
  tauto

/-- One decision of the window is that of counting, and the log goes on with it. -/
lemma allow_eq {s : LocalWindow} {vs : List Verdict} {a : Arrival}
    (h : LocalWindow.Tracks p.window (admitted vs) a.time s) :
    (p.allow s a).1 = p.verdict (admittedWithin p.window vs a) ∧
      LocalWindow.Tracks p.window (admitted (vs ++ [⟨a, (p.allow s a).1⟩])) a.time (p.allow s a).2 := by
  have hlimit := p.limit.toNat_lt
  have hlength := p.length_recentOf vs a
  rcases Nat.lt_or_ge (admittedWithin p.window vs a) p.limit.toNat with hroom | hfull
  · obtain ⟨houtcome, htracks⟩ := h.hit_admitted a.key (hlength.symm ▸ hroom)
    have hcount : UInt32.ofNat (admittedWithin p.window vs a + 1) ≤ p.limit := by
      rw [UInt32.le_iff_toNat_le, UInt32.toNat_ofNat_of_lt' (by rw [UInt32.size]; omega)]
      omega
    have hdecision : (p.allow s a).1 = p.verdict (admittedWithin p.window vs a) := by
      rw [allow, houtcome, hlength, decide_admitted p hcount, verdict, if_pos hroom]
    refine ⟨hdecision, ?_⟩
    have hlog : admitted (vs ++ [⟨a, (p.allow s a).1⟩]) = admitted vs ++ [a] := by
      simp [admitted, hdecision, admitted_verdict, hroom]
    rw [hlog]
    exact htracks
  · obtain ⟨houtcome, htracks⟩ := h.hit_denied a.key (hlength.symm ▸ hfull)
    have hdecision : (p.allow s a).1 = p.verdict (admittedWithin p.window vs a) := by
      rw [allow, houtcome, verdict, if_neg (Nat.not_lt.mpr hfull)]
      rfl
    refine ⟨hdecision, ?_⟩
    have hlog : admitted (vs ++ [⟨a, (p.allow s a).1⟩]) = admitted vs := by
      simp [admitted, hdecision, admitted_verdict, hfull]
    rw [hlog]
    exact htracks

/-- The window decides as if everything ever admitted were counted. -/
theorem decideAll_eq {s : LocalWindow} {vs : List Verdict} {now : Nat} {as : List Arrival}
    (h : LocalWindow.Tracks p.window (admitted vs) now s) (hnow : ∀ a ∈ as, now ≤ a.time)
    (has : as.Pairwise (·.time ≤ ·.time)) : p.decideAll s as = p.countAll vs as := by
  induction as generalizing s vs now with
  | nil => rfl
  | cons a as ih =>
    obtain ⟨hle, has⟩ := List.pairwise_cons.mp has
    obtain ⟨hdecision, htracks⟩ := p.allow_eq (h.later (hnow a List.mem_cons_self))
    rw [decideAll, ih htracks hle has, countAll, hdecision]

/-! ### Counting everything -/

lemma countAll_split {earlier : List Verdict} {as : List Arrival} {pre : List Verdict} {v : Verdict}
    {post : List Verdict} (h : p.countAll earlier as = pre ++ v :: post) :
    v.decision = p.verdict (admittedWithin p.window (earlier ++ pre) v.arrival) := by
  induction as generalizing earlier pre with
  | nil => simp [countAll] at h
  | cons a as ih =>
    cases pre with
    | nil =>
      obtain ⟨rfl, -⟩ := List.cons.inj h
      rw [List.append_nil]
    | cons w pre =>
      obtain ⟨rfl, htail⟩ := List.cons.inj h
      have hv := ih htail
      rwa [List.append_assoc] at hv

lemma arrivals_countAll (earlier : List Verdict) (as : List Arrival) :
    (p.countAll earlier as).map (·.arrival) = as := by
  induction as generalizing earlier with
  | nil => rfl
  | cons a as ih => rw [countAll, List.map_cons, ih]

lemma admittedWithin_filter (window : Nat) (earlier : List Verdict) (a : Arrival) :
    admittedWithin window (earlier.filter (·.arrival.key = a.key)) a = admittedWithin window earlier a := by
  rw [admittedWithin, List.countP_filter]
  apply List.countP_congr
  intro v _
  simp only [Bool.and_eq_true, decide_eq_true_eq]
  tauto

/-- Requests of other identities make no difference. -/
lemma filter_countAll (earlier : List Verdict) (as : List Arrival) (key : String) :
    (p.countAll earlier as).filter (·.arrival.key = key) =
      p.countAll (earlier.filter (·.arrival.key = key)) (as.filter (·.key = key)) := by
  induction as generalizing earlier with
  | nil => rfl
  | cons a as ih =>
    by_cases ha : a.key = key
    · rw [countAll, List.filter_cons_of_pos (by simpa using ha), List.filter_cons_of_pos (by simpa using ha), ih,
        countAll, List.filter_append, List.filter_cons_of_pos (by simpa using ha), List.filter_nil, ← ha,
        admittedWithin_filter]
    · rw [countAll, List.filter_cons_of_neg (by simpa using ha), List.filter_cons_of_neg (by simpa using ha), ih,
        List.filter_append, List.filter_cons_of_neg (by simpa using ha), List.filter_nil, List.append_nil]

/-- Decisions by counting never let more than the limit into one window. -/
lemma countP_admitted_le {vs : List Verdict}
    (h : ∀ pre v post, vs = pre ++ v :: post → v.decision = p.verdict (admittedWithin p.window pre v.arrival))
    (key : String) (start : Nat) :
    vs.countP (fun v => v.decision.admitted ∧ v.arrival.key = key ∧ start ≤ v.arrival.time ∧
      v.arrival.time < start + p.window) ≤ p.limit.toNat := by
  induction vs using List.reverseRecOn with
  | nil => simp
  | append_singleton vs v ih =>
    have hvs := ih fun pre w post hpre => h pre w (post ++ [v]) (by rw [hpre]; simp)
    rw [List.countP_append, List.countP_singleton]
    split
    · -- the last request counts, so all that count before it were in its window
      rename_i hv
      simp only [decide_eq_true_eq] at hv
      obtain ⟨hadmitted, hkey, hstart, hend⟩ := hv
      rw [h vs v [] rfl, admitted_verdict] at hadmitted
      have hle : vs.countP (fun w => w.decision.admitted ∧ w.arrival.key = key ∧ start ≤ w.arrival.time ∧
          w.arrival.time < start + p.window) ≤ admittedWithin p.window vs v.arrival := by
        apply List.countP_mono_left
        intro w _ hw
        simp only [decide_eq_true_eq] at hw ⊢
        exact ⟨hw.1, hw.2.1.trans hkey.symm, by omega⟩
      omega
    · simpa using hvs

/-! ### The window is exact -/

/-- The decisions on a sequence of requests are those of an exact sliding window. -/
structure ExactWindow (as : List Arrival) : Prop where
  /-- Every request is decided on, in turn. -/
  answered : (p.decideAll .empty as).map (·.arrival) = as
  /-- A request is admitted if fewer than the limit were admitted within the window. -/
  admits : ∀ pre v post, p.decideAll .empty as = pre ++ v :: post →
    (v.decision.admitted = true ↔ admittedWithin p.window pre v.arrival < p.limit.toNat)
  /-- What is left is the limit less this request and those that count. -/
  remains : ∀ pre v post, p.decideAll .empty as = pre ++ v :: post → v.decision.admitted = true →
    (v.decision.remaining.toNat : Int) = p.limit.toNat - 1 - admittedWithin p.window pre v.arrival ∧
      v.decision.retryAfter = none
  denies : ∀ pre v post, p.decideAll .empty as = pre ++ v :: post → v.decision.admitted = false →
    v.decision.remaining = 0 ∧ v.decision.retryAfter = some p.window
  /-- No interval as long as the window has more admitted requests of an identity than the limit. -/
  bounded : ∀ key start, (p.decideAll .empty as).countP (fun v => v.decision.admitted ∧ v.arrival.key = key ∧
    start ≤ v.arrival.time ∧ v.arrival.time < start + p.window) ≤ p.limit.toNat
  /-- The decisions on an identity's requests are those without the requests of others. -/
  independent : ∀ key, (p.decideAll .empty as).filter (·.arrival.key = key) =
    p.decideAll .empty (as.filter (·.key = key))

lemma decideAll_empty {as : List Arrival} (h : as.Pairwise (·.time ≤ ·.time)) :
    p.decideAll .empty as = p.countAll [] as :=
  p.decideAll_eq (LocalWindow.tracks_empty p.window 0) (fun _ _ => Nat.zero_le _) h

lemma verdict_admitted {n : Nat} (h : (p.verdict n).admitted = true) :
    ((p.verdict n).remaining.toNat : Int) = p.limit.toNat - 1 - n ∧ (p.verdict n).retryAfter = none := by
  have hlimit := p.limit.toNat_lt
  have hn := (p.admitted_verdict n).mp h
  have hcount : (UInt32.ofNat (n + 1)).toNat = n + 1 := UInt32.toNat_ofNat_of_lt' (by rw [UInt32.size]; omega)
  rw [verdict, if_pos hn]
  refine ⟨?_, rfl⟩
  rw [UInt32.toNat_sub_of_le _ _ (by rw [UInt32.le_iff_toNat_le, hcount]; omega), hcount]
  omega

lemma verdict_denied {n : Nat} (h : (p.verdict n).admitted = false) :
    (p.verdict n).remaining = 0 ∧ (p.verdict n).retryAfter = some p.window := by
  unfold verdict at h ⊢
  split at h
  · cases h
  · rename_i hn
    rw [if_neg hn]
    exact ⟨rfl, rfl⟩

/-- The window of a single process is exact, for requests of any identities in the order of time. -/
theorem decides_exactly {as : List Arrival} (h : as.Pairwise (·.time ≤ ·.time)) : p.ExactWindow as := by
  have heq := p.decideAll_empty h
  have hverdict : ∀ pre v post, p.decideAll .empty as = pre ++ v :: post →
      v.decision = p.verdict (admittedWithin p.window pre v.arrival) := by
    intro pre v post hsplit
    rw [heq] at hsplit
    exact p.countAll_split hsplit
  constructor
  · rw [heq, arrivals_countAll]
  · intro pre v post hsplit
    rw [hverdict pre v post hsplit, admitted_verdict]
  · intro pre v post hsplit hadmitted
    rw [hverdict pre v post hsplit] at hadmitted ⊢
    exact p.verdict_admitted hadmitted
  · intro pre v post hsplit hdenied
    rw [hverdict pre v post hsplit] at hdenied ⊢
    exact p.verdict_denied hdenied
  · intro key start
    exact p.countP_admitted_le hverdict key start
  · intro key
    rw [heq, p.decideAll_empty (h.filter _), filter_countAll]
    rfl

/-- Two requests within 60: the third of one identity is denied, another identity's is not, and at time 60 the first
one counts no more. -/
theorem decides_exactly_edge :
    [Arrival.mk "rl:a" 0, ⟨"rl:a", 30⟩, ⟨"rl:a", 59⟩, ⟨"rl:b", 59⟩, ⟨"rl:a", 60⟩].Pairwise (·.time ≤ ·.time) ∧
    ExactWindow ⟨2, 60⟩ [⟨"rl:a", 0⟩, ⟨"rl:a", 30⟩, ⟨"rl:a", 59⟩, ⟨"rl:b", 59⟩, ⟨"rl:a", 60⟩] ∧
    (decideAll ⟨2, 60⟩ .empty [⟨"rl:a", 0⟩, ⟨"rl:a", 30⟩, ⟨"rl:a", 59⟩, ⟨"rl:b", 59⟩, ⟨"rl:a", 60⟩]).map
      (fun v => (v.decision.admitted, v.decision.remaining)) =
        [(true, 1), (true, 0), (false, 0), (true, 1), (true, 0)] :=
  ⟨by decide, decides_exactly _ (by decide), by decide⟩

end Policy
end CompletionGateway.Admission
