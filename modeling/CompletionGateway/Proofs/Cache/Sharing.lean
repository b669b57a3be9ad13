import CompletionGateway.Proofs.Cache.ExpiringMap

/-! Callers that share a map and take turns at it. A read that finds an entry expired drops it at a later turn, by the
time that its caller took at first; in between others may have written under the key. -/
namespace CompletionGateway.Cache.Sharing

inductive Request where
  | get (key : String)
  | set (key : String) (value : List UInt8) (ttl : Nat)
  | delete (key : String)

def Request.IsWrite : Request → Prop
  | .get _ => False
  | .set _ _ _ => True
  | .delete _ => True

/-- A request, and the time its caller took before it waited for the map. -/
structure Caller where
  request : Request
  sampled : Nat

/-- How far a caller is: it waits for its first turn, or it has found an expired entry that it is to drop, or it is
through with what it found, which for a write is nothing. -/
inductive Stage where
  | waiting
  | purging (key : String)
  | done (found : Option (List UInt8))

/-- How many turns a caller takes at most. -/
def Stage.due : Stage → Nat
  | .waiting => 2
  | .purging _ => 1
  | .done _ => 0

namespace Caller

/-- The turn of a caller that has the map to itself. -/
def turn? (c : Caller) (m : ExpiringMap) : Stage → Option (Stage × ExpiringMap)
  | .waiting =>
    match c.request with
    | .get key =>
      match m.look c.sampled key with
      | .held v => some (.done (some v), m)
      | .expired => some (.purging key, m)
      | .absent => some (.done none, m)
    | .set key value ttl => some (.done none, m.set c.sampled key value ttl)
    | .delete key => some (.done none, m.delete key)
  | .purging key => some (.done none, m.purge c.sampled key)
  | .done _ => none

/-- The whole of a request at one turn. -/
def serve (c : Caller) (m : ExpiringMap) : Option (List UInt8) × ExpiringMap :=
  match c.request with
  | .get key => m.get c.sampled key
  | .set key value ttl => (none, m.set c.sampled key value ttl)
  | .delete key => (none, m.delete key)

variable {c : Caller} {m m' : ExpiringMap} {s s' : Stage} {key : String}

/-- A read is through with what it finds, or it finds nothing and is to drop an entry. -/
lemma turn?_get (hget : c.request = .get key) :
    c.turn? m .waiting = some (.done (m.get c.sampled key).1, m) ∧ (m.get c.sampled key).2 = m ∨
      c.turn? m .waiting = some (.purging key, m) ∧ m.get c.sampled key = (none, m.purge c.sampled key) := by
  unfold turn? ExpiringMap.get
  rw [hget]
  dsimp only
  cases m.look c.sampled key with
  | held v => exact .inl ⟨rfl, rfl⟩
  | expired => exact .inr ⟨rfl, rfl⟩
  | absent => exact .inl ⟨rfl, rfl⟩

lemma turn?_write (hwrite : c.request.IsWrite) : c.turn? m .waiting = some (.done none, (c.serve m).2) := by
  unfold turn? serve
  cases hrequest : c.request with
  | get key => exact (hrequest ▸ hwrite : Request.IsWrite (.get key)).elim
  | set key value ttl => rfl
  | delete key => rfl

/-- A caller whose turns nobody comes between does all of its request. -/
theorem turns_alone (c : Caller) (m : ExpiringMap) :
    c.turn? m .waiting = some (.done (c.serve m).1, (c.serve m).2) ∨
      ∃ key, c.turn? m .waiting = some (.purging key, m) ∧
        c.turn? m (.purging key) = some (.done (c.serve m).1, (c.serve m).2) := by
  unfold serve
  cases hrequest : c.request with
  | get key =>
    dsimp only
    rcases turn?_get (m := m) hrequest with ⟨hturn, hmap⟩ | ⟨hturn, hget⟩
    · exact .inl (by rw [hturn, hmap])
    · exact .inr ⟨key, hturn, by rw [hget]; rfl⟩
  | set key value ttl => exact .inl (by rw [turn?, hrequest])
  | delete key => exact .inl (by rw [turn?, hrequest])

/-- Each turn brings a caller nearer to its end, and only at its end it takes no more. -/
lemma turn?_due (c : Caller) (m : ExpiringMap) (s : Stage) :
    (∃ a, s = .done a) ∨ ∃ s' m', c.turn? m s = some (s', m') ∧ s'.due < s.due := by
  cases s with
  | waiting =>
    cases hrequest : c.request with
    | get key =>
      rcases turn?_get (m := m) hrequest with ⟨hturn, -⟩ | ⟨hturn, -⟩
      · exact .inr ⟨_, _, hturn, Nat.two_pos⟩
      · exact .inr ⟨_, _, hturn, Nat.one_lt_two⟩
    | set key value ttl => exact .inr ⟨_, _, turn?_write (hrequest ▸ trivial), Nat.two_pos⟩
    | delete key => exact .inr ⟨_, _, turn?_write (hrequest ▸ trivial), Nat.two_pos⟩
  | purging key => exact .inr ⟨_, _, rfl, Nat.one_pos⟩
  | done a => exact .inl ⟨a, rfl⟩

end Caller

/-! ### Purging -/

/-- A purge drops no entry but one of its key that has expired by its time. -/
lemma find?_purge {m : ExpiringMap} (sampled : Nat) (key : String) {key' : String} {e : Entry}
    (h : m.entries.find? key' = some e) :
    (m.purge sampled key).entries.find? key' = some e ∨ key' = key ∧ e.expiresAt ≤ sampled := by
  unfold ExpiringMap.purge
  split
  · rename_i e' hfind
    split
    · rename_i hexpired
      rw [Association.find?_erase]
      split
      · rename_i hkey
        subst hkey
        exact .inr ⟨rfl, Option.some.inj (h.symm.trans hfind) ▸ hexpired⟩
      · exact .inl h
    · exact .inl h
  · exact .inl h

/-! ### Turns -/

/-- A turn that was taken, by the caller of a number. -/
structure Turn where
  time : Nat
  number : Nat
  caller : Caller
  stage : Stage
  before : ExpiringMap
  after : ExpiringMap

/-- Callers take turns in any order, one at a time, while time does not go back. Each took its own time before. -/
inductive Course (callers : List Caller) : List Stage → ExpiringMap → Nat → List Turn → List Stage → ExpiringMap → Prop
  | rest {stages m now} : Course callers stages m now [] stages m
  | turn {stages m now i c s s' m' t turns stages' m''} (caller : callers[i]? = some c) (stage : stages[i]? = some s)
      (taken : c.turn? m s = some (s', m')) (sampled : c.sampled ≤ t) (later : now ≤ t)
      (further : Course callers (stages.set i s') m' t turns stages' m'') :
      Course callers stages m now (⟨t, i, c, s, m, m'⟩ :: turns) stages' m''

/-- A turn that is not a write, or one that leaves what is under a key. -/
def Turn.Spares (x : Turn) (key : String) : Prop :=
  x.caller.request.IsWrite → x.after.entries.find? key = x.before.entries.find? key

namespace Course
variable {callers : List Caller} {stages stages' : List Stage} {m m' : ExpiringMap} {now : Nat} {turns : List Turn}
variable {x : Turn} {key : String} {e : Entry}

/-- What is known of a turn by itself. -/
structure Legal (callers : List Caller) (now : Nat) (x : Turn) : Prop where
  caller : callers[x.number]? = some x.caller
  sampled : x.caller.sampled ≤ x.time
  later : now ≤ x.time
  taken : ∃ s', x.caller.turn? x.before x.stage = some (s', x.after)

lemma legal (h : Course callers stages m now turns stages' m') : ∀ x ∈ turns, Legal callers now x := by
  induction h with
  | rest => exact List.forall_mem_nil _
  | turn caller stage taken sampled later further ih =>
    refine List.forall_mem_cons.mpr ⟨⟨caller, sampled, later, _, taken⟩, fun y hy => ?_⟩
    exact { ih y hy with later := later.trans (ih y hy).later }

/-- A course up to a turn, that turn and the course from there. -/
lemma split {earlier later : List Turn} (h : Course callers stages m now (earlier ++ x :: later) stages' m') :
    ∃ between, Course callers stages m now earlier between x.before ∧
      ∃ after, Course callers after x.after x.time later stages' m' := by
  induction earlier generalizing stages m now with
  | nil =>
    cases h with
    | turn caller stage taken sampled later further => exact ⟨_, .rest, _, further⟩
  | cons y earlier ih =>
    cases h with
    | turn caller stage taken sampled later further =>
      obtain ⟨between, hearlier, after, hlater⟩ := ih further
      exact ⟨between, .turn caller stage taken sampled later hearlier, after, hlater⟩

/-! ### Entries -/

lemma Legal.purges (hx : Legal callers now x) {purged : String} (hpurging : x.stage = .purging purged)
    (h : x.before.entries.find? key = some e) : x.after.entries.find? key = some e ∨ e.expiresAt ≤ x.time := by
  obtain ⟨s', htaken⟩ := hx.taken
  rw [hpurging] at htaken
  obtain ⟨-, hmap⟩ := Prod.mk.inj (Option.some.inj htaken)
  rw [← hmap]
  exact (find?_purge x.caller.sampled purged h).imp_right fun hexpired => hexpired.2.trans hx.sampled

/-- At a turn that is not a write an entry goes only if it has expired. -/
lemma Legal.keeps (hx : Legal callers now x) (h : x.before.entries.find? key = some e) (hspared : x.Spares key) :
    x.after.entries.find? key = some e ∨ e.expiresAt ≤ x.time := by
  by_cases hwrite : x.caller.request.IsWrite
  · exact .inl ((hspared hwrite).trans h)
  · obtain ⟨s', htaken⟩ := hx.taken
    cases hstage : x.stage with
    | waiting =>
      rw [hstage] at htaken
      cases hrequest : x.caller.request with
      | get key' =>
        have hmap : x.after = x.before := by
          rcases Caller.turn?_get (m := x.before) hrequest with ⟨hturn, -⟩ | ⟨hturn, -⟩ <;>
            exact (Prod.mk.inj (Option.some.inj (htaken.symm.trans hturn))).2
        exact .inl (hmap ▸ h)
      | set key' value ttl => exact (hwrite (hrequest ▸ trivial)).elim
      | delete key' => exact (hwrite (hrequest ▸ trivial)).elim
    | purging purged => exact hx.purges hstage h
    | done a =>
      rw [hstage] at htaken
      cases htaken

/-- An entry that all writes leave is held as long as it has not expired. -/
lemma keeps (h : Course callers stages m now turns stages' m') (hfind : m.entries.find? key = some e)
    (hspared : ∀ x ∈ turns, x.Spares key) (hlive : ∀ x ∈ turns, x.time < e.expiresAt) :
    m'.entries.find? key = some e := by
  induction h with
  | rest => exact hfind
  | turn caller stage taken sampled later further ih =>
    rw [List.forall_mem_cons] at hspared hlive
    -- one turn by what is legal at it, the others by the course that is left
    have hlegal : Legal _ _ ⟨_, _, _, _, _, _⟩ := ⟨caller, sampled, later, _, taken⟩
    rcases hlegal.keeps hfind hspared.1 with hkept | hexpired
    · exact ih hkept hspared.2 hlive.2
    · exact absurd hlive.1 (Nat.not_lt.mpr hexpired)

lemma sorted (h : Course callers stages m now turns stages' m') : turns.Pairwise (·.time ≤ ·.time) := by
  induction h with
  | rest => exact .nil
  | turn caller stage taken sampled later further ih =>
    exact .cons (fun y hy => (further.legal y hy).later) ih

/-! ### Answers -/

variable {i : Nat} {c : Caller} {s : Stage} {a : Option (List UInt8)}

/-- The turns that a caller takes come off what it is due. -/
lemma due (h : Course callers stages m now turns stages' m') (hs : stages[i]? = some s) :
    ∃ s', stages'[i]? = some s' ∧ turns.countP (·.number = i) + s'.due ≤ s.due := by
  induction h generalizing s with
  | rest => exact ⟨s, hs, by simp⟩
  | @turn stages m now j c sj s' m' t turns stages' m'' caller stage taken sampled later further ih =>
    -- a turn of another caller neither counts nor moves this one
    by_cases hj : j = i
    · subst hj
      obtain rfl := Option.some.inj (stage.symm.trans hs)
      have hnearer : s'.due < sj.due := by
        rcases c.turn?_due m sj with ⟨a, rfl⟩ | ⟨s'', m₂, hturn, hdue⟩
        · cases taken
        · exact (Prod.mk.inj (Option.some.inj (taken.symm.trans hturn))).1 ▸ hdue
      obtain ⟨s'', hend, hdue⟩ := ih (List.getElem?_set_self (List.getElem?_eq_some_iff.mp stage).1)
      refine ⟨s'', hend, ?_⟩
      rw [List.countP_cons_of_pos (by simp)]
      omega
    · obtain ⟨s'', hend, hdue⟩ := ih ((List.getElem?_set_ne hj).trans hs)
      refine ⟨s'', hend, ?_⟩
      rwa [List.countP_cons_of_neg (by simpa using hj)]

lemma done_stays (h : Course callers stages m now turns stages' m') (hs : stages[i]? = some (.done a)) :
    stages'[i]? = some (.done a) := by
  induction h with
  | rest => exact hs
  | @turn stages m now j c sj s' m' t turns stages' m'' caller stage taken sampled later further ih =>
    refine ih ((List.getElem?_set_ne ?_).trans hs)
    rintro rfl
    obtain rfl := Option.some.inj (stage.symm.trans hs)
    cases taken

/-- Who is to drop an entry has nothing to answer, whatever becomes of the entry. -/
lemma purging_ends (h : Course callers stages m now turns stages' m') (hs : stages[i]? = some (.purging key)) :
    stages'[i]? = some (.purging key) ∨ stages'[i]? = some (.done none) := by
  induction h with
  | rest => exact .inl hs
  | @turn stages m now j c sj s' m' t turns stages' m'' caller stage taken sampled later further ih =>
    by_cases hj : j = i
    · subst hj
      obtain rfl := Option.some.inj (stage.symm.trans hs)
      obtain ⟨rfl, -⟩ := Prod.mk.inj (Option.some.inj taken)
      exact .inr (further.done_stays (List.getElem?_set_self (List.getElem?_eq_some_iff.mp stage).1))
    · exact ih ((List.getElem?_set_ne hj).trans hs)

/-- A read at its first turn answers as the whole of it would at that turn. -/
structure Reads (c : Caller) (i : Nat) (key : String) (stages : List Stage) (x : Turn) : Prop where
  number : x.number = i
  first : x.stage = .waiting
  answer : stages[i]? = some (.done (x.before.get c.sampled key).1) ∨
    stages[i]? = some (.purging key) ∧ (x.before.get c.sampled key).1 = none

lemma reads (h : Course callers stages m now turns stages' m') (hs : stages[i]? = some .waiting)
    (hc : callers[i]? = some c) (hget : c.request = .get key) :
    stages'[i]? = some .waiting ∨ ∃ x ∈ turns, Reads c i key stages' x := by
  induction h with
  | rest => exact .inl hs
  | @turn stages m now j cj sj s' m' t turns stages' m'' caller stage taken sampled later further ih =>
    by_cases hj : j = i
    · subst hj
      obtain rfl := Option.some.inj (stage.symm.trans hs)
      obtain rfl := Option.some.inj (caller.symm.trans hc)
      have hset : (stages.set j s')[j]? = some s' :=
        List.getElem?_set_self (List.getElem?_eq_some_iff.mp stage).1
      refine .inr ⟨_, List.mem_cons_self, rfl, rfl, ?_⟩
      rcases Caller.turn?_get (m := m) hget with ⟨hturn, -⟩ | ⟨hturn, hnone⟩
      · obtain ⟨rfl, -⟩ := Prod.mk.inj (Option.some.inj (taken.symm.trans hturn))
        exact .inl (further.done_stays hset)
      · obtain ⟨rfl, -⟩ := Prod.mk.inj (Option.some.inj (taken.symm.trans hturn))
        rcases further.purging_ends hset with hend | hend
        · exact .inr ⟨hend, congrArg Prod.fst hnone⟩
        · exact .inl (hend.trans (congrArg (fun r => some (Stage.done r.1)) hnone.symm))
    · rcases ih ((List.getElem?_set_ne hj).trans hs) with hwaits | ⟨x, hx, hreads⟩
      · exact .inl hwaits
      · exact .inr ⟨x, List.mem_cons_of_mem _ hx, hreads⟩

/-! ### Sharing -/

/-- What callers may count on when they share a map. -/
structure Sound (callers : List Caller) (turns : List Turn) (stages : List Stage) : Prop where
  /-- No entry is purged that has not expired. -/
  unexpired : ∀ x ∈ turns, ∀ {purged : String}, x.stage = .purging purged → ∀ {key : String} {e : Entry},
    x.before.entries.find? key = some e → x.time < e.expiresAt → x.after.entries.find? key = some e
  /-- What was written before a purge, were it since its caller's read, is there after the purge, if other writes have
  left it and it has not expired. -/
  survives : ∀ {earlier between later : List Turn} {w p : Turn}, turns = earlier ++ w :: (between ++ p :: later) →
    ∀ {key : String} {value : List UInt8} {ttl : Nat}, w.stage = .waiting → w.caller.request = .set key value ttl →
    (∀ x ∈ between, x.Spares key) →
    ∀ {purged : String}, p.stage = .purging purged → p.time < w.caller.sampled + ttl →
    p.after.entries.find? key = some ⟨value, w.caller.sampled + ttl⟩
  /-- Every read is yet to begin, or its answer is settled at its first turn. -/
  reads : ∀ {i : Nat} {c : Caller} {key : String}, callers[i]? = some c → c.request = .get key →
    stages[i]? = some .waiting ∨ ∃ x ∈ turns, Reads c i key stages x
  /-- Every caller is through, or it can take its next turn whatever has become of the map; and two turns are enough. -/
  returns : ∀ {i : Nat} {c : Caller}, callers[i]? = some c → ∃ s : Stage, stages[i]? = some s ∧
    ((∃ a, s = .done a) ∨ turns.countP (·.number = i) < 2 ∧ ∀ m, (c.turn? m s).isSome)

/-- However callers take turns at a map, all is as they may count on. -/
theorem shared_safely (h : Course callers (callers.map fun _ => .waiting) m now turns stages m') :
    Sound callers turns stages where
  unexpired x hx _ hpurging _ _ hfind hlive :=
    ((h.legal x hx).purges hpurging hfind).resolve_right (Nat.not_le.mpr hlive)
  survives {earlier between later w p} hturns {key value ttl} hwaiting hset hspared _ hpurging hlive := by
    subst hturns
    have hw := h.legal w (by simp)
    have hp := h.legal p (by simp)
    obtain ⟨_, _, _, hrest⟩ := h.split
    obtain ⟨_, hbetween, _⟩ := hrest.split
    have hwritten : w.after.entries.find? key = some ⟨value, w.caller.sampled + ttl⟩ := by
      obtain ⟨s', htaken⟩ := hw.taken
      rw [hwaiting, Caller.turn?, hset] at htaken
      obtain ⟨-, hmap⟩ := Prod.mk.inj (Option.some.inj htaken)
      rw [← hmap, ExpiringMap.set, Association.find?_insert, if_pos rfl]
    -- time does not go back, so what has not expired at the purge has not at any turn before
    have htimes : ∀ x ∈ between, x.time ≤ p.time := fun x hx =>
      (List.pairwise_append.mp hrest.sorted).2.2 x hx p List.mem_cons_self
    have hkept := hbetween.keeps hwritten hspared fun x hx => (htimes x hx).trans_lt hlive
    exact (hp.purges hpurging hkept).resolve_right (Nat.not_le.mpr hlive)
  reads hc hget := h.reads (by rw [List.getElem?_map, hc]; rfl) hc hget
  returns {i c} hc := by
    obtain ⟨s, hs, hdue⟩ := h.due (s := .waiting) (by rw [List.getElem?_map, hc]; rfl)
    refine ⟨s, hs, ?_⟩
    by_cases hdone : ∃ a, s = .done a
    · exact .inl hdone
    · have hturn : ∀ m, (c.turn? m s).isSome ∧ 0 < s.due := by
        intro m
        obtain ⟨s', m', hturn, hnearer⟩ := (c.turn?_due m s).resolve_left hdone
        exact ⟨by rw [hturn]; rfl, Nat.zero_lt_of_lt hnearer⟩
      have hpositive := (hturn m).2
      change _ ≤ 2 at hdue
      exact .inr ⟨by omega, fun m => (hturn m).1⟩

/-- One caller writes under a key between another's finding an expired entry there and dropping it. A third finds what
was written, a fourth, in time, that it has expired. -/
def crossing : List Caller :=
  [⟨.get "k", 10⟩, ⟨.set "k" [2] 5, 12⟩, ⟨.get "k", 13⟩, ⟨.get "k", 17⟩]

def stale : ExpiringMap := ⟨⟨[("k", ⟨[1], 9⟩)]⟩, 2⟩

/-- The map when the written entry is there. -/
def fresh : ExpiringMap := ⟨⟨[("k", ⟨[2], 17⟩)]⟩, 2⟩

theorem shared_safely_crossing : ∃ turns stages m, Course crossing (crossing.map fun _ => .waiting) stale 0 turns stages m ∧
    Sound crossing turns stages ∧ turns.map (·.number) = [0, 1, 2, 0, 3, 3] ∧
    turns.map (·.after) = [stale, fresh, fresh, fresh, fresh, ⟨⟨[]⟩, 2⟩] ∧
    stages = [.done none, .done none, .done (some [2]), .done none] := by
  have hcourse : Course crossing (crossing.map fun _ => .waiting) stale 0 _ _ _ :=
    .turn (i := 0) (t := 11) rfl rfl rfl (by decide) (by decide) <|
    .turn (i := 1) (t := 12) rfl rfl rfl (by decide) (by decide) <|
    .turn (i := 2) (t := 14) rfl rfl rfl (by decide) (by decide) <|
    .turn (i := 0) (t := 15) rfl rfl rfl (by decide) (by decide) <|
    .turn (i := 3) (t := 17) rfl rfl rfl (by decide) (by decide) <|
    .turn (i := 3) (t := 18) rfl rfl rfl (by decide) (by decide) .rest
  exact ⟨_, _, _, hcourse, hcourse.shared_safely, rfl, rfl, rfl⟩

end Course
end CompletionGateway.Cache.Sharing
