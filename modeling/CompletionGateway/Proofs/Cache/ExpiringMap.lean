import CompletionGateway.Cache.ExpiringMap
import CompletionGateway.Proofs.Association

/-! A map whose entries expire, against the log of what was written to it. What is found under a key is what was written
last under it and has not expired; and as long as fewer keys were written than there is room for, all of it is found. -/
namespace CompletionGateway.Cache.ExpiringMap

/-- What was written last under a key. -/
def latest? (log : List (String × Entry)) (key : String) : Option Entry :=
  ((log.filter fun w => w.1 = key).getLast?).map (·.2)

/-- The keys that were written. -/
def keysOf (log : List (String × Entry)) : Finset String := (log.map (·.1)).toFinset

lemma latest?_snoc (log : List (String × Entry)) (key key' : String) (e : Entry) :
    latest? (log ++ [(key, e)]) key' = if key' = key then some e else latest? log key' := by
  by_cases h : key' = key
  · simp [latest?, h]
  · simp [latest?, h, Ne.symm h]

lemma mem_keysOf {log : List (String × Entry)} {key : String} {e : Entry} (h : latest? log key = some e) :
    key ∈ keysOf log := by
  obtain ⟨w, hw, -⟩ := Option.map_eq_some_iff.mp h
  obtain ⟨hmem, hkey⟩ := List.mem_filter.mp (List.mem_of_getLast? hw)
  rw [keysOf, List.mem_toFinset, List.mem_map]
  exact ⟨w, hmem, by simpa using hkey⟩

lemma keysOf_snoc (log : List (String × Entry)) (w : String × Entry) : keysOf log ⊆ keysOf (log ++ [w]) := by
  intro key hkey
  rw [keysOf, List.mem_toFinset] at hkey ⊢
  rw [List.map_append]
  exact List.mem_append_left _ hkey

/-- A map holds what its log says. -/
structure Tracks (log : List (String × Entry)) (now : Nat) (m : ExpiringMap) : Prop where
  distinct : m.entries.Distinct
  /-- What is held was written last. -/
  held : ∀ {key e}, m.entries.find? key = some e → latest? log key = some e
  /-- Where there is room for all keys, what was written last is held until it expires. -/
  kept : (keysOf log).card < m.capacity → ∀ {key e}, latest? log key = some e → now < e.expiresAt →
    m.entries.find? key = some e

variable {log : List (String × Entry)} {now t : Nat} {m : ExpiringMap}

lemma tracks_empty (capacity now : Nat) : Tracks [] now (empty capacity) :=
  ⟨Association.distinct_empty, by simp [empty], by simp [latest?]⟩

lemma Tracks.later (h : Tracks log now m) (ht : now ≤ t) : Tracks log t m :=
  ⟨h.distinct, h.held, fun hroom _ _ he hnow => h.kept hroom he (Nat.lt_of_le_of_lt ht hnow)⟩

/-- There are no more entries than keys that were written. -/
lemma Tracks.size_le (h : Tracks log now m) : m.entries.size ≤ (keysOf log).card :=
  h.distinct.size_le_card fun he => mem_keysOf (h.held he)

/-! ### Reading -/

lemma Tracks.purge (h : Tracks log t m) (key : String) : Tracks log t (m.purge t key) := by
  unfold ExpiringMap.purge
  split
  · rename_i e hfound
    split
    · rename_i hexpired
      refine ⟨h.distinct.erase key, ?_, ?_⟩
      · intro key' e' he'
        rw [Association.find?_erase] at he'
        split at he'
        · cases he'
        · exact h.held he'
      · -- what was purged has expired, so it is not missed
        intro hroom key' e' he' hlive
        rw [Association.find?_erase]
        split
        · rename_i hkey
          subst hkey
          have hsame : e = e' := Option.some.inj ((h.held hfound).symm.trans he')
          subst hsame
          exact absurd hlive (Nat.not_lt.mpr hexpired)
        · exact h.kept hroom he' hlive
    · exact h
  · exact h

lemma Tracks.get (h : Tracks log now m) (ht : now ≤ t) (key : String) : Tracks log t (m.get t key).2 := by
  unfold ExpiringMap.get
  split
  · exact h.later ht
  · exact (h.later ht).purge key
  · exact h.later ht

/-- A read finds what is held and has not expired. -/
lemma get_fst (m : ExpiringMap) (now : Nat) (key : String) (value : List UInt8) :
    (m.get now key).1 = some value ↔ ∃ e, m.entries.find? key = some e ∧ e.value = value ∧ now < e.expiresAt := by
  unfold ExpiringMap.get look
  cases hfind : m.entries.find? key with
  | none => simp
  | some e =>
    by_cases hlive : now < e.expiresAt
    · simp [hlive]
    · simp [hlive]

/-- What a read finds was written last and has not expired. -/
theorem Tracks.found (h : Tracks log now m) {key : String} {v : List UInt8} (hv : (m.get t key).1 = some v) :
    ∃ e, latest? log key = some e ∧ t < e.expiresAt ∧ e.value = v := by
  obtain ⟨e, hfind, hvalue, hlive⟩ := (get_fst m t key v).mp hv
  exact ⟨e, h.held hfind, hlive, hvalue⟩

/-- Where there is room for all keys, a read finds what was written last and has not expired. -/
theorem Tracks.finds (h : Tracks log now m) (ht : now ≤ t) (hroom : (keysOf log).card < m.capacity) {key : String}
    {e : Entry} (he : latest? log key = some e) (hlive : t < e.expiresAt) : (m.get t key).1 = some e.value := by
  have hfind := h.kept hroom he (Nat.lt_of_le_of_lt ht hlive)
  exact (get_fst m t key e.value).mpr ⟨e, hfind, rfl, hlive⟩

@[simp] lemma capacity_get (m : ExpiringMap) (t : Nat) (key : String) : (m.get t key).2.capacity = m.capacity := by
  unfold ExpiringMap.get purge
  split
  · rfl
  · dsimp only
    split
    · split <;> rfl
    · rfl
  · rfl

/-! ### Writing -/

/-- Making room removes entries only, and none if there is room. -/
lemma Tracks.makeRoom (h : Tracks log now m) (t : Nat) :
    (m.makeRoom t).Distinct ∧ (∀ {key e}, (m.makeRoom t).find? key = some e → m.entries.find? key = some e) ∧
      ((keysOf log).card < m.capacity → m.makeRoom t = m.entries) := by
  have hretain : ∀ {key e}, (m.entries.retain (t < ·.expiresAt)).find? key = some e →
      m.entries.find? key = some e := by
    intro key e he
    rw [h.distinct.find?_retain] at he
    exact (Option.filter_eq_some_iff.mp he).1
  unfold ExpiringMap.makeRoom
  split
  · rename_i hfull
    have hroom : ¬ (keysOf log).card < m.capacity := Nat.not_lt.mpr (hfull.trans h.size_le)
    dsimp only
    split
    · split
      · refine ⟨(h.distinct.retain _).erase _, ?_, fun hlt => absurd hlt hroom⟩
        intro key e he
        rw [Association.find?_erase] at he
        split at he
        · cases he
        · exact hretain he
      · exact ⟨h.distinct.retain _, hretain, fun hlt => absurd hlt hroom⟩
    · exact ⟨h.distinct.retain _, hretain, fun hlt => absurd hlt hroom⟩
  · exact ⟨h.distinct, id, fun _ => rfl⟩

lemma Tracks.set (h : Tracks log now m) (ht : now ≤ t) (key : String) (value : List UInt8) (ttl : Nat) :
    Tracks (log ++ [(key, ⟨value, t + ttl⟩)]) t (m.set t key value ttl) := by
  obtain ⟨room, hdistinct, hfound, hroom, hset⟩ : ∃ room : Association String Entry, room.Distinct ∧
      (∀ {key e}, room.find? key = some e → m.entries.find? key = some e) ∧
      ((keysOf log).card < m.capacity → room = m.entries) ∧
      m.set t key value ttl = ⟨room.insert key ⟨value, t + ttl⟩, m.capacity⟩ := by
    unfold ExpiringMap.set
    split
    · exact ⟨_, h.distinct, id, fun _ => rfl, rfl⟩
    · obtain ⟨hdistinct, hfound, hroom⟩ := h.makeRoom t
      exact ⟨_, hdistinct, hfound, hroom, rfl⟩
  rw [hset]
  refine ⟨hdistinct.insert key _, ?_, ?_⟩
  · intro key' e' he'
    rw [Association.find?_insert] at he'
    rw [latest?_snoc]
    split at he'
    · rename_i hkey
      rw [if_pos hkey, ← he']
    · rename_i hkey
      rw [if_neg hkey]
      exact h.held (hfound he')
  · intro hlt key' e' he' hlive
    have hlt' : (keysOf log).card < m.capacity := (Finset.card_le_card (keysOf_snoc log _)).trans_lt hlt
    rw [Association.find?_insert]
    rw [latest?_snoc] at he'
    split at he'
    · rename_i hkey
      rw [if_pos hkey, ← he']
    · rename_i hkey
      rw [if_neg hkey, hroom hlt']
      exact h.kept hlt' he' (Nat.lt_of_le_of_lt ht hlive)

@[simp] lemma capacity_set (m : ExpiringMap) (t : Nat) (key : String) (value : List UInt8) (ttl : Nat) :
    (m.set t key value ttl).capacity = m.capacity := rfl

end CompletionGateway.Cache.ExpiringMap
