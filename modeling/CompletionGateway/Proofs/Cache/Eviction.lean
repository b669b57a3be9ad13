import CompletionGateway.Proofs.Cache.ExpiringMap

/-! What a map of bounded size forgets. There are never more entries than it has room for. An entry that has not
expired is taken away by a write or a deletion of its key, or else by the entry of a new key into a map full of entries
that have not expired, and then it is the one that would have expired first. -/
namespace CompletionGateway.Cache.ExpiringMap

/-- What a map is asked to do. -/
inductive Access where
  | set (key : String) (value : List UInt8) (ttl : Nat)
  | get (key : String)
  | delete (key : String)
  deriving DecidableEq, Repr

namespace Access

def key : Access → String
  | .set key _ _ => key
  | .get key => key
  | .delete key => key

/-- A value is entered under the key, or the key is deleted. -/
def Writes (key : String) : Access → Prop
  | .set key' _ _ => key' = key
  | .get _ => False
  | .delete key' => key' = key

end Access

/-- The map that an access at some time leaves. -/
def access (m : ExpiringMap) (now : Nat) : Access → ExpiringMap
  | .set key value ttl => m.set now key value ttl
  | .get key => (m.get now key).2
  | .delete key => m.delete key

/-- The map that a history of accesses leaves, each with its time. -/
def after (capacity : Nat) (history : List (Nat × Access)) : ExpiringMap :=
  history.foldl (fun m a => m.access a.1 a.2) (empty capacity)

/-- The entries that have not expired. -/
def unexpired (m : ExpiringMap) (now : Nat) : Association String Entry := m.entries.retain (now < ·.expiresAt)

/-- Keys occur once, and there are no more entries than there is room for. -/
structure Bounded (m : ExpiringMap) : Prop where
  distinct : m.entries.Distinct
  positive : 0 < m.capacity
  size_le : m.entries.size ≤ m.capacity

variable {m : ExpiringMap} {now : Nat} {key key' : String} {e e' : Entry}

lemma Bounded.find?_unexpired (h : m.Bounded) :
    (m.unexpired now).find? key = some e ↔ m.entries.find? key = some e ∧ now < e.expiresAt := by
  rw [unexpired, h.distinct.find?_retain, Option.filter_eq_some_iff, decide_eq_true_iff]

/-! ### Making room -/

lemma earliest_eq_none {es : List (String × Entry)} (h : earliest es = none) : es = [] := by
  cases es with
  | nil => rfl
  | cons e es =>
    unfold earliest at h
    split at h
    · split at h <;> cases h
    · cases h

/-- What expires earliest is an entry, and none expires before it. -/
lemma earliest_spec {es : List (String × Entry)} {e : String × Entry} (h : earliest es = some e) :
    e ∈ es ∧ ∀ f ∈ es, e.2.expiresAt ≤ f.2.expiresAt := by
  induction es generalizing e with
  | nil => cases h
  | cons x es ih =>
    unfold earliest at h
    split at h
    · rename_i f hf
      obtain ⟨hmem, hleast⟩ := ih hf
      split at h
      · rename_i hlt
        obtain rfl := Option.some.inj h
        refine ⟨List.mem_cons_of_mem _ hmem, ?_⟩
        rintro g (_ | ⟨_, hg⟩)
        · exact hlt.le
        · exact hleast g hg
      · rename_i hle
        obtain rfl := Option.some.inj h
        refine ⟨List.mem_cons_self, ?_⟩
        rintro g (_ | ⟨_, hg⟩)
        · exact le_refl _
        · exact (Nat.le_of_not_lt hle).trans (hleast g hg)
    · rename_i hnone
      obtain rfl := Option.some.inj h
      rw [earliest_eq_none hnone]
      simp

/-- The ways of making room: there is room, the expired entries go, or the entry goes that would expire first. -/
inductive MadeRoom (m : ExpiringMap) (now : Nat) : Association String Entry → Prop
  | roomy (room : m.entries.size < m.capacity) : MadeRoom m now m.entries
  | swept (room : (m.unexpired now).size < m.capacity) : MadeRoom m now (m.unexpired now)
  | evicted {key : String} {e : Entry} (full : (m.unexpired now).size = m.capacity)
      (held : m.entries.find? key = some e)
      (soonest : ∀ key' e', m.entries.find? key' = some e' → e.expiresAt ≤ e'.expiresAt) :
      MadeRoom m now (m.entries.erase key)

lemma Bounded.madeRoom (h : m.Bounded) (now : Nat) : MadeRoom m now (m.makeRoom now) := by
  unfold ExpiringMap.makeRoom
  split
  · dsimp only
    split
    · rename_i hfull
      -- no entry has expired, as there would be fewer otherwise
      have hall : m.entries.retain (now < ·.expiresAt) = m.entries :=
        Association.retain_eq_self (h.size_le.trans hfull)
      have hsize : (m.unexpired now).size = m.capacity :=
        Nat.le_antisymm ((Association.size_retain_le _ _).trans h.size_le) hfull
      rw [hall] at hfull ⊢
      split
      · rename_i e he
        obtain ⟨hmem, hleast⟩ := earliest_spec he
        exact .evicted hsize (h.distinct.mem_iff.mp hmem) fun _ _ hf => hleast _ (h.distinct.mem_iff.mpr hf)
      · rename_i hnone
        have hempty : m.entries.size = 0 := by rw [Association.size, earliest_eq_none hnone, List.length_nil]
        exact absurd (h.positive.trans_le hfull) (by omega)
    · exact .swept (by rename_i hroom; exact Nat.lt_of_not_le hroom)
  · exact .roomy (by rename_i hroom; exact Nat.lt_of_not_le hroom)

/-- There is room for another key. -/
lemma Bounded.size_makeRoom (h : m.Bounded) (now : Nat) : (m.makeRoom now).size < m.capacity := by
  have hmade := h.madeRoom now
  generalize m.makeRoom now = room at hmade
  cases hmade with
  | roomy hroom => exact hroom
  | swept hroom => exact hroom
  | evicted full held soonest =>
    have hsize := h.distinct.size_erase held
    have hle := h.size_le
    omega

lemma MadeRoom.distinct {room : Association String Entry} (hmade : MadeRoom m now room) (h : m.Bounded) :
    room.Distinct := by
  cases hmade with
  | roomy => exact h.distinct
  | swept => exact h.distinct.retain _
  | evicted => exact h.distinct.erase _

/-- Nothing new comes in by making room. -/
lemma MadeRoom.held {room : Association String Entry} (hmade : MadeRoom m now room) (h : m.Bounded)
    (hfound : room.find? key = some e) : m.entries.find? key = some e := by
  cases hmade with
  | roomy => exact hfound
  | swept => exact (h.find?_unexpired.mp hfound).1
  | evicted =>
    rw [Association.find?_erase] at hfound
    split at hfound
    · cases hfound
    · exact hfound

/-! ### One access -/

/-- What a write leaves: the entries that were kept, and the new one. -/
lemma Bounded.set_spec (h : m.Bounded) (now : Nat) (key : String) (value : List UInt8) (ttl : Nat) :
    ∃ room : Association String Entry, m.set now key value ttl = ⟨room.insert key ⟨value, now + ttl⟩, m.capacity⟩ ∧
      (room = m.entries ∧ m.entries.contains key = true ∨ m.entries.find? key = none ∧ MadeRoom m now room ∧
        room.size < m.capacity) := by
  unfold ExpiringMap.set
  split
  · rename_i hheld
    exact ⟨_, rfl, .inl ⟨rfl, hheld⟩⟩
  · rename_i habsent
    refine ⟨_, rfl, .inr ⟨?_, h.madeRoom now, h.size_makeRoom now⟩⟩
    exact Association.contains_eq_false.mp (by simpa using habsent)

lemma Bounded.set (h : m.Bounded) (now : Nat) (key : String) (value : List UInt8) (ttl : Nat) :
    (m.set now key value ttl).Bounded := by
  obtain ⟨room, hset, ⟨rfl, hheld⟩ | ⟨habsent, hmade, hroom⟩⟩ := h.set_spec now key value ttl
  · rw [hset]
    refine ⟨h.distinct.insert _ _, h.positive, ?_⟩
    rw [Association.size_insert, if_pos hheld]
    exact h.size_le
  · rw [hset]
    refine ⟨(hmade.distinct h).insert _ _, h.positive, ?_⟩
    dsimp only
    rw [Association.size_insert]
    split <;> omega

lemma Bounded.delete (h : m.Bounded) (key : String) : (m.delete key).Bounded :=
  ⟨h.distinct.erase key, h.positive, (List.length_filter_le _ _).trans h.size_le⟩

/-- A read leaves the map as it is, or takes the entry that it finds expired. -/
lemma get_spec (m : ExpiringMap) (now : Nat) (key : String) :
    (m.get now key).2 = m ∨
      ∃ e, m.entries.find? key = some e ∧ e.expiresAt ≤ now ∧ (m.get now key).2 = m.delete key := by
  unfold ExpiringMap.get purge
  split
  · exact .inl rfl
  · dsimp only
    split
    · rename_i e hfound
      split
      · rename_i hexpired
        exact .inr ⟨e, hfound, hexpired, rfl⟩
      · exact .inl rfl
    · exact .inl rfl
  · exact .inl rfl

lemma Bounded.access (h : m.Bounded) (now : Nat) (a : Access) : (m.access now a).Bounded := by
  cases a with
  | set key value ttl => exact h.set now key value ttl
  | get key =>
    rcases get_spec m now key with hsame | ⟨e, -, -, hdeleted⟩
    · rw [ExpiringMap.access, hsame]
      exact h
    · rw [ExpiringMap.access, hdeleted]
      exact h.delete key
  | delete key => exact h.delete key

@[simp] lemma capacity_access (m : ExpiringMap) (now : Nat) (a : Access) : (m.access now a).capacity = m.capacity := by
  cases a with
  | set key value ttl => rfl
  | get key => exact capacity_get m now key
  | delete key => rfl

/-- What is found after an access was written by it, or was there before and was not written over. -/
lemma Bounded.find?_access (h : m.Bounded) {a : Access} (hfound : (m.access now a).entries.find? key = some e) :
    (∃ value ttl, a = .set key value ttl ∧ e = ⟨value, now + ttl⟩) ∨
      m.entries.find? key = some e ∧ ¬ a.Writes key := by
  have hdelete : ∀ {key'}, (m.delete key').entries.find? key = some e → m.entries.find? key = some e ∧ key' ≠ key := by
    intro key' hfound
    rw [ExpiringMap.delete, Association.find?_erase] at hfound
    split at hfound
    · cases hfound
    · rename_i hne
      exact ⟨hfound, Ne.symm hne⟩
  cases a with
  | set key' value ttl =>
    obtain ⟨room, hset, hroom⟩ := h.set_spec now key' value ttl
    rw [ExpiringMap.access, hset, Association.find?_insert] at hfound
    split at hfound
    · rename_i hkey
      subst hkey
      exact .inl ⟨value, ttl, rfl, (Option.some.inj hfound).symm⟩
    · rename_i hne
      refine .inr ⟨?_, Ne.symm hne⟩
      rcases hroom with ⟨rfl, -⟩ | ⟨-, hmade, -⟩
      · exact hfound
      · exact hmade.held h hfound
  | get key' =>
    refine .inr ⟨?_, id⟩
    rcases get_spec m now key' with hsame | ⟨-, -, -, hdeleted⟩
    · rwa [ExpiringMap.access, hsame] at hfound
    · rw [ExpiringMap.access, hdeleted] at hfound
      exact (hdelete hfound).1
  | delete key' => exact .inr (hdelete hfound)

/-! ### Losses -/

/-- An access takes away an entry that has not expired. -/
structure Loses (m : ExpiringMap) (now : Nat) (a : Access) (key : String) (e : Entry) : Prop where
  held : m.entries.find? key = some e
  live : now < e.expiresAt
  gone : (m.access now a).entries.find? key ≠ some e

/-- An entry has to go for a new key. The map is full of entries that have not expired; of these no other one is taken
away, and none would have expired earlier. -/
structure Evicts (m : ExpiringMap) (now : Nat) (a : Access) (key : String) (e : Entry) : Prop extends
    Loses m now a key e where
  entering : ∃ key' value ttl, a = .set key' value ttl ∧ m.entries.find? key' = none
  full : (m.unexpired now).size = m.capacity
  alone : ∀ key' e', key' ≠ key → m.entries.find? key' = some e' → (m.access now a).entries.find? key' = some e'
  soonest : ∀ key' e', m.entries.find? key' = some e' → e.expiresAt ≤ e'.expiresAt

variable {value : List UInt8} {ttl : Nat}

lemma Bounded.evicts (h : m.Bounded) (habsent : m.entries.find? key = none)
    (hset : m.set now key value ttl = ⟨(m.entries.erase key').insert key ⟨value, now + ttl⟩, m.capacity⟩)
    (hfull : (m.unexpired now).size = m.capacity) (hheld : m.entries.find? key' = some e)
    (hsoonest : ∀ key' e', m.entries.find? key' = some e' → e.expiresAt ≤ e'.expiresAt) :
    Evicts m now (.set key value ttl) key' e := by
  have hne : ∀ {key'' e''}, m.entries.find? key'' = some e'' → key'' ≠ key := by
    rintro key'' e'' hfound rfl
    simp [habsent] at hfound
  have hall : m.unexpired now = m.entries := Association.retain_eq_self (h.size_le.trans hfull.ge)
  have hlive : now < e.expiresAt := (h.find?_unexpired.mp (by rw [hall]; exact hheld)).2
  refine ⟨⟨hheld, hlive, ?_⟩, ⟨key, value, ttl, rfl, habsent⟩, hfull, ?_, hsoonest⟩
  · rw [ExpiringMap.access, hset, Association.find?_insert, if_neg (hne hheld), Association.find?_erase, if_pos rfl]
    exact Option.some_ne_none e ∘ Eq.symm
  · intro key'' e'' hother hfound
    rw [ExpiringMap.access, hset, Association.find?_insert, if_neg (hne hfound), Association.find?_erase, if_neg hother]
    exact hfound

/-- Where no entry has expired and there is no room, one has to go for a new key. -/
lemma Bounded.evicts_one (h : m.Bounded) (habsent : m.entries.find? key = none)
    (hfull : (m.unexpired now).size = m.capacity) : ∃ key' e, Evicts m now (.set key value ttl) key' e := by
  obtain ⟨room, hset, ⟨-, hheld⟩ | ⟨-, hmade, -⟩⟩ := h.set_spec now key value ttl
  · rw [Association.contains_eq_false.mpr habsent] at hheld
    cases hheld
  · cases hmade with
    | roomy hroom =>
      have hle : (m.unexpired now).size ≤ m.entries.size := Association.size_retain_le _ _
      omega
    | swept hroom => omega
    | evicted hfull hheld hsoonest => exact ⟨_, _, h.evicts habsent hset hfull hheld hsoonest⟩

/-- Entries that have not expired are lost in no other way. -/
lemma Bounded.loses (h : m.Bounded) {a : Access} (hloses : Loses m now a key e) :
    a.Writes key ∨ Evicts m now a key e := by
  obtain ⟨hheld, hlive, hgone⟩ := hloses
  have hdelete : ∀ {key'}, (m.delete key').entries.find? key ≠ some e → key' = key := by
    intro key' hgone
    by_contra hne
    rw [ExpiringMap.delete, Association.find?_erase, if_neg (Ne.symm hne)] at hgone
    exact hgone hheld
  cases a with
  | set key' value ttl =>
    by_cases hkey : key' = key
    · exact .inl hkey
    refine .inr ?_
    obtain ⟨room, hset, hroom⟩ := h.set_spec now key' value ttl
    have hgone' : room.find? key ≠ some e := by
      rwa [ExpiringMap.access, hset, Association.find?_insert, if_neg (Ne.symm hkey)] at hgone
    rcases hroom with ⟨rfl, -⟩ | ⟨habsent, hmade, -⟩
    · exact absurd hheld hgone'
    · cases hmade with
      | roomy => exact absurd hheld hgone'
      | swept => exact absurd (h.find?_unexpired.mpr ⟨hheld, hlive⟩) hgone'
      | @evicted victim e' hfull hvictim hsoonest =>
        -- nothing but the victim has gone
        obtain rfl : key = victim := by
          by_contra hne
          rw [Association.find?_erase, if_neg hne] at hgone'
          exact hgone' hheld
        obtain rfl : e = e' := Option.some.inj (hheld.symm.trans hvictim)
        exact h.evicts habsent hset hfull hheld hsoonest
  | get key' =>
    rcases get_spec m now key' with hsame | ⟨e', hfound, hexpired, hdeleted⟩
    · rw [ExpiringMap.access, hsame] at hgone
      exact absurd hheld hgone
    · rw [ExpiringMap.access, hdeleted] at hgone
      obtain rfl := hdelete hgone
      obtain rfl : e = e' := Option.some.inj (hheld.symm.trans hfound)
      omega
  | delete key' => exact .inl (hdelete hgone)

/-- An entry goes only if there are as many others that have not expired as there is room for. -/
lemma Evicts.others {a : Access} (hevicts : Evicts m now a key e) (h : m.Bounded) :
    ((m.unexpired now).erase a.key).size = m.capacity := by
  obtain ⟨key', value, ttl, rfl, habsent⟩ := hevicts.entering
  have hnone : (m.unexpired now).find? key' = none := by
    rw [unexpired, h.distinct.find?_retain, habsent]
    rfl
  rw [Access.key, Association.erase_absent hnone]
  exact hevicts.full

/-! ### Whole histories -/

lemma after_snoc (capacity : Nat) (history : List (Nat × Access)) (now : Nat) (a : Access) :
    after capacity (history ++ [(now, a)]) = (after capacity history).access now a := by
  rw [after, List.foldl_append]
  rfl

lemma after_bounded (capacity : Nat) (history : List (Nat × Access)) :
    (after capacity history).Bounded ∧ (after capacity history).capacity = max capacity 1 := by
  induction history using List.reverseRecOn with
  | nil => exact ⟨⟨Association.distinct_empty, by simp [after, empty], Nat.zero_le _⟩, rfl⟩
  | append_singleton history a ih =>
    rw [after_snoc, capacity_access]
    exact ⟨ih.1.access _ _, ih.2⟩

/-- The last access in a history that wrote under a key entered a value there. -/
def EnteredLast (history : List (Nat × Access)) (key : String) (e : Entry) : Prop :=
  ∃ earlier t ttl later, history = earlier ++ (t, .set key e.value ttl) :: later ∧
    (∀ a ∈ later, ¬ a.2.Writes key) ∧ e.expiresAt = t + ttl

lemma after_entered {capacity : Nat} {history : List (Nat × Access)}
    (hfound : (after capacity history).entries.find? key = some e) : EnteredLast history key e := by
  induction history using List.reverseRecOn with
  | nil => cases hfound
  | append_singleton history a ih =>
    obtain ⟨t, a⟩ := a
    rw [after_snoc] at hfound
    rcases (after_bounded capacity history).1.find?_access hfound with ⟨value, ttl, rfl, rfl⟩ | ⟨hfound, hother⟩
    · exact ⟨history, t, ttl, [], rfl, by simp, rfl⟩
    · obtain ⟨earlier, s, ttl, later, rfl, hlater, hexpires⟩ := ih hfound
      refine ⟨earlier, s, ttl, later ++ [(t, a)], by simp, ?_, hexpires⟩
      intro b hb
      rcases List.mem_append.mp hb with hb | hb
      · exact hlater b hb
      · rw [List.mem_singleton.mp hb]
        exact hother

/-- A map that holds what was entered last, forgets no more than it has to, and has room for so many entries. -/
structure Remembers (room : Nat) (history : List (Nat × Access)) (m : ExpiringMap) : Prop where
  capacity : m.capacity = room
  bounded : m.size ≤ room
  /-- A read finds what is held and has not expired. -/
  found : ∀ now key value, (m.get now key).1 = some value ↔
    ∃ e, m.entries.find? key = some e ∧ e.value = value ∧ now < e.expiresAt
  /-- What it finds was entered last. -/
  latest : ∀ now key value, (m.get now key).1 = some value →
    ∃ e, EnteredLast history key e ∧ e.value = value ∧ now < e.expiresAt
  entered : ∀ now key value ttl, (m.set now key value ttl).entries.find? key = some ⟨value, now + ttl⟩
  /-- An entry that has not expired is written over, deleted or evicted. -/
  lost : ∀ now a key e, Loses m now a key e → a.Writes key ∨ Evicts m now a key e
  /-- A new key evicts an entry if the map is full of entries that have not expired. -/
  evicting : ∀ now key value ttl, m.entries.find? key = none → (m.unexpired now).size = room →
    ∃ key' e, Evicts m now (.set key value ttl) key' e
  /-- Nothing is evicted where fewer other keys are held that have not expired. -/
  kept : ∀ now a key e, ((m.unexpired now).erase a.key).size < room → Loses m now a key e → a.Writes key

/-- Whatever a map has been asked to do, it remembers what it has room for. -/
theorem after_remembers (capacity : Nat) (history : List (Nat × Access)) :
    Remembers (max capacity 1) history (after capacity history) := by
  obtain ⟨hbounded, hcapacity⟩ := after_bounded capacity history
  refine ⟨hcapacity, hcapacity ▸ hbounded.size_le, fun now key value => get_fst _ now key value, ?_, ?_,
    fun now a key e => hbounded.loses, ?_, ?_⟩
  · intro now key value hread
    obtain ⟨e, hfound, hvalue, hlive⟩ := (get_fst _ now key value).mp hread
    exact ⟨e, after_entered hfound, hvalue, hlive⟩
  · intro now key value ttl
    obtain ⟨room, hset, -⟩ := hbounded.set_spec now key value ttl
    rw [hset, Association.find?_insert, if_pos rfl]
  · intro now key value ttl habsent hfull
    exact hbounded.evicts_one habsent (hfull.trans hcapacity.symm)
  · intro now a key e hroom hloses
    rcases hbounded.loses hloses with hwrites | hevicts
    · exact hwrites
    · rw [hevicts.others hbounded, hcapacity] at hroom
      exact absurd hroom (lt_irrefl _)

/-- Of two entries the one that expires earlier goes, not the one that was made earlier. -/
example : (after 2 [(0, .set "a" [1] 30), (0, .set "b" [2] 10), (1, .set "c" [3] 5)]).entries.entries.map (·.1) =
    ["a", "c"] := by decide

end CompletionGateway.Cache.ExpiringMap
