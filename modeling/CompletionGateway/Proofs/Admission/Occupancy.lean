import CompletionGateway.Proofs.Admission.LocalWindow

/-! How much the window of a single process holds. Of each identity it holds at least one request and no more than the
limit, in the order of time. So the last one tells whether any of them still counts, and of a crowd only the identities
remain that do. -/
namespace CompletionGateway.Admission.LocalWindow

/-- The window after requests that come one after the other. -/
def after (s : LocalWindow) (limit : UInt32) (window : Nat) (as : List Arrival) : LocalWindow :=
  as.foldl (fun s a => (s.hit a.time a.key limit window).2) s

/-- Those of the requests that are admitted. -/
def admissions (s : LocalWindow) (limit : UInt32) (window : Nat) : List Arrival → List Arrival
  | [] => []
  | a :: as =>
    let r := s.hit a.time a.key limit window
    (if r.1.admitted then [a] else []) ++ r.2.admissions limit window as

/-- The identities with a request of a log in the window that ends now. -/
def recentKeys (log : List Arrival) (now window : Nat) : Finset String :=
  ((log.filter fun a => now - a.time < window).map (·.key)).toFinset

variable {limit : UInt32} {window now t : Nat} {log : List Arrival} {s : LocalWindow} {key : String}

lemma after_snoc (s : LocalWindow) (limit : UInt32) (window : Nat) (as : List Arrival) (a : Arrival) :
    s.after limit window (as ++ [a]) = ((s.after limit window as).hit a.time a.key limit window).2 := by
  rw [after, List.foldl_append]
  rfl

lemma mem_recentOf : t ∈ recentOf log now window key ↔ ∃ a ∈ log, a.key = key ∧ a.time = t ∧ now - t < window := by
  rw [recentOf, timesOf]
  simp only [isRecent, List.mem_filter, List.mem_map, decide_eq_true_eq]
  constructor
  · rintro ⟨⟨a, ⟨ha, hkey⟩, rfl⟩, hrecent⟩
    exact ⟨a, ha, hkey, rfl, hrecent⟩
  · rintro ⟨a, ha, hkey, rfl, hrecent⟩
    exact ⟨⟨a, ⟨ha, hkey⟩, rfl⟩, hrecent⟩

lemma mem_recentKeys : key ∈ recentKeys log now window ↔ recentOf log now window key ≠ [] := by
  simp only [recentKeys, List.mem_toFinset, List.mem_map, List.mem_filter, decide_eq_true_eq]
  constructor
  · rintro ⟨a, ⟨ha, hrecent⟩, hkey⟩
    exact List.ne_nil_of_mem (mem_recentOf.mpr ⟨a, ha, hkey, rfl, hrecent⟩)
  · intro hne
    obtain ⟨t, ht⟩ := List.exists_mem_of_ne_nil _ hne
    obtain ⟨a, ha, hkey, rfl, hrecent⟩ := mem_recentOf.mp ht
    exact ⟨a, ⟨ha, hrecent⟩, hkey⟩

/-! ### Dropping idle identities -/

/-- An identity is active only if one of its requests still counts. -/
lemma filter_recent_of_active {times : List Nat} (h : isActive now window times = true) :
    times.filter (isRecent now window) ≠ [] := by
  unfold isActive at h
  split at h
  · rename_i last hlast
    exact List.ne_nil_of_mem (List.mem_filter.mpr ⟨List.mem_of_getLast? hlast, h⟩)
  · cases h

/-- Whoever still counts is not dropped. -/
lemma Tracks.recentKeys_subset (h : Tracks window log now s) :
    recentKeys log now window ⊆ (s.tidy now window).keys.toFinset := by
  obtain ⟨-, -, hkept⟩ := h.tidy
  intro key hkey
  rw [mem_recentKeys, ← hkept] at hkey
  rw [List.mem_toFinset, Association.mem_keys, ← Option.isSome_iff_exists, ← Option.ne_none_iff_isSome]
  intro hnone
  rw [hnone] at hkey
  exact hkey rfl

/-- Of a crowd, nobody else remains. -/
lemma Tracks.size_tidy_le (h : Tracks window log now s) :
    (s.tidy now window).size ≤ max crowd (recentKeys log now window).card := by
  unfold LocalWindow.tidy
  split
  · -- what remains has a last request that counts, and all that count are in the log
    refine le_max_of_le_right ((h.distinct.retain _).size_le_card fun {key times} htimes => ?_)
    rw [h.distinct.find?_retain, Option.filter_eq_some_iff] at htimes
    obtain ⟨hfind, hactive⟩ := htimes
    have hkept := h.kept key
    rw [hfind, Option.getD_some] at hkept
    rw [mem_recentKeys, ← hkept]
    exact filter_recent_of_active hactive
  · exact le_max_of_le_left (Nat.not_lt.mp ‹_›)

/-! ### One request -/

/-- Of each identity that is held there is at least one request, and no more than the limit. -/
structure Filled (limit : UInt32) (s : LocalWindow) : Prop where
  nonempty : ∀ {key times}, s.clients.find? key = some times → times ≠ []
  limited : ∀ {key times}, s.clients.find? key = some times → times.length ≤ limit.toNat

lemma filled_empty (limit : UInt32) : Filled limit empty := ⟨by simp [empty], by simp [empty]⟩

lemma Filled.length_recentOf_le (h : Filled limit s) (htracks : Tracks window log now s) (key : String) :
    (recentOf log now window key).length ≤ limit.toNat := by
  rw [← htracks.kept]
  cases hfind : s.clients.find? key with
  | none => exact Nat.zero_le _
  | some times => exact (List.length_filter_le _ _).trans (h.limited hfind)

/-- A request enters a list for its identity that is neither empty nor longer than the limit. -/
lemma Filled.hit_enters (hlimit : 1 ≤ limit) (h : Filled limit s) (htracks : Tracks window log now s) (key : String) :
    ∃ times, (s.hit now key limit window).2 = ⟨(s.tidy now window).insert key times⟩ ∧ times ≠ [] ∧
      times.length ≤ limit.toNat := by
  rcases Nat.lt_or_ge (recentOf log now window key).length limit.toNat with hroom | hfull
  · refine ⟨recentOf log now window key ++ [now], ?_, by simp, ?_⟩
    · rw [htracks.hit_room key hroom]
    · rw [List.length_append, List.length_singleton]
      exact hroom
  · -- a full list is not empty since the limit is positive
    have hpositive : 1 ≤ limit.toNat := UInt32.le_iff_toNat_le.mp hlimit
    refine ⟨recentOf log now window key, ?_, ?_, h.length_recentOf_le htracks key⟩
    · rw [htracks.hit_full key hfull]
    · exact List.ne_nil_of_length_pos (hpositive.trans hfull)

lemma Filled.hit (hlimit : 1 ≤ limit) (h : Filled limit s) (htracks : Tracks window log now s) (key : String) :
    Filled limit (s.hit now key limit window).2 := by
  obtain ⟨times, hhit, hne, hle⟩ := h.hit_enters hlimit htracks key
  obtain ⟨-, hfound, -⟩ := htracks.tidy
  rw [hhit]
  have hall : ∀ {key' times'}, ((s.tidy now window).insert key times).find? key' = some times' →
      times' ≠ [] ∧ times'.length ≤ limit.toNat := by
    intro key' times' htimes
    rw [Association.find?_insert] at htimes
    split at htimes
    · exact Option.some.inj htimes ▸ ⟨hne, hle⟩
    · exact ⟨h.nonempty (hfound htimes), h.limited (hfound htimes)⟩
  exact ⟨fun htimes => (hall htimes).1, fun htimes => (hall htimes).2⟩

/-- Whether a request is admitted or not, the log tells what is held after it. -/
lemma Tracks.hit (h : Tracks window log now s) (key : String) (limit : UInt32) :
    Tracks window (log ++ if (s.hit now key limit window).1.admitted then [⟨key, now⟩] else []) now
      (s.hit now key limit window).2 := by
  rcases Nat.lt_or_ge (recentOf log now window key).length limit.toNat with hroom | hfull
  · obtain ⟨houtcome, htracks⟩ := h.hit_admitted key hroom
    rw [houtcome, if_pos rfl]
    exact htracks
  · obtain ⟨houtcome, htracks⟩ := h.hit_denied key hfull
    rw [houtcome, if_neg Bool.false_ne_true, List.append_nil]
    exact htracks

/-! ### Many requests -/

lemma admissions_sublist (s : LocalWindow) (limit : UInt32) (window : Nat) (as : List Arrival) :
    (s.admissions limit window as).Sublist as := by
  induction as generalizing s with
  | nil => exact List.Sublist.slnil
  | cons a as ih =>
    rw [admissions]
    split
    · exact (ih _).cons_cons a
    · exact (ih _).cons a

lemma Tracks.after {as : List Arrival} (hlimit : 1 ≤ limit) (h : Tracks window log now s) (hfilled : Filled limit s)
    (hordered : as.Pairwise (·.time ≤ ·.time)) (hnow : ∀ a ∈ as, now ≤ a.time) (ht : now ≤ t)
    (hlast : ∀ a ∈ as, a.time ≤ t) :
    Tracks window (log ++ s.admissions limit window as) t (s.after limit window as) ∧
      Filled limit (s.after limit window as) := by
  induction as generalizing s log now with
  | nil =>
    rw [admissions, List.append_nil]
    exact ⟨h.later ht, hfilled⟩
  | cons a as ih =>
    obtain ⟨hle, hordered⟩ := List.pairwise_cons.mp hordered
    have hthen := h.later (hnow a List.mem_cons_self)
    rw [admissions, ← List.append_assoc]
    exact ih (hthen.hit a.key limit) (hfilled.hit hlimit hthen a.key) hordered hle (hlast a List.mem_cons_self)
      fun b hb => hlast b (List.mem_cons_of_mem _ hb)

/-- What a window holds after a request, if this is what it had admitted before. -/
structure Occupancy (limit : UInt32) (window : Nat) (before : List Arrival) (a : Arrival) (s : LocalWindow) : Prop where
  /-- No identity is held twice. -/
  distinct : s.clients.Distinct
  /-- There are no more identities than a crowd and one, or than were admitted within the window and this one. -/
  few : s.clients.size ≤ max 10001 (1 + (recentKeys before a.time window).card)
  /-- This one and those are among them. -/
  present : insert a.key (recentKeys before a.time window) ⊆ s.clients.keys.toFinset
  nonempty : ∀ key times, s.clients.find? key = some times → times ≠ []
  ordered : ∀ key times, s.clients.find? key = some times → times.Pairwise (· ≤ ·)
  limited : ∀ key times, s.clients.find? key = some times → times.length ≤ limit.toNat

/-- After any requests in the order of time, whoever still counts is held. There are no more identities than a crowd and
one unless more still count, and of each there are requests, in order and within the limit. -/
theorem occupancy_bounded (limit : UInt32) (window : Nat) (earlier : List Arrival) (a : Arrival) (hlimit : 1 ≤ limit)
    (hordered : (earlier ++ [a]).Pairwise (·.time ≤ ·.time)) :
    Occupancy limit window (empty.admissions limit window earlier) a (empty.after limit window (earlier ++ [a])) := by
  obtain ⟨hearlier, -, hlast⟩ := List.pairwise_append.mp hordered
  obtain ⟨htracks, hfilled⟩ := (tracks_empty window 0).after hlimit (filled_empty limit) hearlier
    (fun _ _ => Nat.zero_le _) (Nat.zero_le a.time) fun b hb => hlast b hb a List.mem_cons_self
  rw [List.nil_append] at htracks
  obtain ⟨times, hhit, -⟩ := hfilled.hit_enters hlimit htracks a.key
  have hthen := htracks.hit a.key limit
  have hfilled' := hfilled.hit hlimit htracks a.key
  rw [after_snoc]
  refine ⟨hthen.distinct, ?_, ?_, fun _ _ => hfilled'.nonempty, fun _ _ => hthen.times_ordered,
    fun _ _ => hfilled'.limited⟩
  · have hsize := htracks.size_tidy_le
    rw [hhit, Association.size_insert]
    unfold crowd at hsize
    split <;> omega
  · rw [hhit]
    intro key hkey
    rw [List.mem_toFinset, Association.mem_keys, Association.find?_insert]
    split
    · exact ⟨_, rfl⟩
    · rename_i hne
      have hrecent := htracks.recentKeys_subset (Finset.mem_of_mem_insert_of_ne hkey hne)
      exact Association.mem_keys.mp (List.mem_toFinset.mp hrecent)

/-! ### Passers-by -/

/-- Requests of identities that come once each, 60 apart. -/
def passersBy (n : Nat) : List Arrival := (List.range n).map fun i => ⟨String.ofList (List.replicate i 'x'), i * 60⟩

/-- One more, after twenty thousand of them. -/
def straggler : Arrival := ⟨"rl:a", 20000 * 60⟩

lemma time_of_mem_passersBy {n : Nat} {a : Arrival} (h : a ∈ passersBy n) : a.time + 60 ≤ n * 60 := by
  obtain ⟨i, hi, rfl⟩ := List.mem_map.mp h
  have hlt := List.mem_range.mp hi
  dsimp only
  omega

lemma ordered_passersBy (n : Nat) : (passersBy n).Pairwise (·.time ≤ ·.time) :=
  List.pairwise_map.mpr (List.pairwise_lt_range.imp fun h => Nat.mul_le_mul_right 60 h.le)

lemma nodup_passersBy (n : Nat) : ((passersBy n).map (·.key)).Nodup := by
  rw [passersBy, List.map_map]
  refine List.nodup_range.map fun i j hij => ?_
  simpa using congrArg String.length hij

/-- With a window of 60, twenty thousand identities have come once each, and at most half of them are still held. -/
theorem occupancy_bounded_passersBy :
    1 ≤ (3 : UInt32) ∧ (passersBy 20000 ++ [straggler]).Pairwise (·.time ≤ ·.time) ∧
    Occupancy 3 60 (empty.admissions 3 60 (passersBy 20000)) straggler
      (empty.after 3 60 (passersBy 20000 ++ [straggler])) ∧
    ((passersBy 20000).map (·.key)).Nodup ∧
    (empty.after 3 60 (passersBy 20000 ++ [straggler])).clients.size ≤ 10001 := by
  have hlast : ∀ a ∈ passersBy 20000, a.time + 60 ≤ straggler.time := fun a ha => time_of_mem_passersBy ha
  have hordered : (passersBy 20000 ++ [straggler]).Pairwise (·.time ≤ ·.time) := by
    refine List.pairwise_append.mpr ⟨ordered_passersBy 20000, List.pairwise_singleton _ _, ?_⟩
    intro a ha b hb
    rw [List.mem_singleton.mp hb]
    exact (Nat.le_add_right _ _).trans (hlast a ha)
  have hoccupancy := occupancy_bounded 3 60 (passersBy 20000) straggler (by decide) hordered
  have hnone : recentKeys (empty.admissions 3 60 (passersBy 20000)) straggler.time 60 = ∅ := by
    rw [recentKeys, List.toFinset_eq_empty_iff, List.map_eq_nil_iff, List.filter_eq_nil_iff]
    intro a ha
    have hle := hlast a ((admissions_sublist _ _ _ _).subset ha)
    simp only [decide_eq_true_eq]
    omega
  have hfew := hoccupancy.few
  rw [hnone, Finset.card_empty] at hfew
  exact ⟨by decide, hordered, hoccupancy, nodup_passersBy 20000, hfew⟩

end CompletionGateway.Admission.LocalWindow
