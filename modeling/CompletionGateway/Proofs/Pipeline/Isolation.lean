import CompletionGateway.Proofs.Pipeline.History
import CompletionGateway.Proofs.Store.Listings

/-! Callers do not reach each other's conversations. Whatever requests callers make of a store that begins empty and
any of whose operations may fail, and whatever backend, cache and consumers do, a conversation stays with the caller
who began it, only its owner writes to it, and a listing tells nobody else what happened. All that others can tell is that
a conversation is there: they are refused it as somebody else's, which before it began they were as unknown. -/
namespace CompletionGateway
open Program Store Store.Memory

namespace Orchestrator
variable {p : Principal} {new : ConversationId → Prop} {s s' : Memory}

/-! ### What each part of a run does to the store -/

lemma StartRun.isolated {t x} (hs : s.WellFormed) (h : StartRun mayFail p s t x s')
    (hnew : ∀ id m, ⟨.freshConversation, id, m⟩ ∈ t → new id) :
    Extends p new s s' ∧ ∀ id, x = .ok id → s'.owner? id = some p := by
  obtain ⟨drawn, clock, entered⟩ := h
  rename_i id m now m' x
  obtain rfl : m = s := drawn.unchanged not_false
  obtain rfl : m' = m := clock.unchanged not_false
  rcases entered with entered | ⟨⟨e, rfl⟩, rfl⟩
  · obtain rfl : s' = (create m' (.start id now p)).2 := congrArg Prod.snd entered
    refine ⟨.create hs rfl (hnew id m' List.mem_cons_self), ?_⟩
    intro id' hid'
    cases hfound : m'.find? id with
    | some c =>
      have hx : x = .error (alreadyExists id) := by
        rw [show x = (create m' (.start id now p)).1 from congrArg Prod.fst entered]
        rw [create_present (c := .start id now p) hfound]
        rfl
      rw [hx] at hid'
      cases hid'
    | none =>
      have hx : x = .ok () := by
        rw [show x = (create m' (.start id now p)).1 from congrArg Prod.fst entered]
        rw [create_absent (c := .start id now p) hfound]
      rw [hx] at hid'
      cases hid'
      rw [create_absent (c := .start id now p) hfound]
      simp [owner?, find?, Conversation.start]
  · exact ⟨.refl _, fun id hid => by cases hid⟩

/-- A run that resolves its conversation ends in one of the caller's, the one that was named if that is on record. -/
lemma ResolveRun.isolated {named : Option ConversationId} {t x} (hs : s.WellFormed)
    (h : ResolveRun mayFail p s named t x s') (hnew : ∀ id m, ⟨.freshConversation, id, m⟩ ∈ t → new id) :
    Extends p new s s' ∧ ∀ id, x = .ok id → s'.owner? id = some p ∧
      ∀ id', named = some id' → s.owner? id' ≠ none → id = id' := by
  cases h with
  | started start =>
    obtain ⟨hext, hown⟩ := start.isolated hs hnew
    exact ⟨hext, fun id hid => ⟨hown id hid, fun id' hid' => nomatch hid'⟩⟩
  | unread read =>
    obtain rfl := read.unchanged not_false
    exact ⟨.refl _, fun id hid => nomatch hid⟩
  | found read owned =>
    rename_i id c
    obtain rfl := read.unchanged not_false
    obtain ⟨hfound, -⟩ | ⟨⟨e, he⟩, -⟩ := read
    · have hfound : s'.find? id = some c := (Except.ok.inj hfound).symm
      have hid : c.id = id := hs.named hfound
      refine ⟨.refl _, ?_⟩
      intro id' hid'
      obtain rfl : c.id = id' := Except.ok.inj hid'
      refine ⟨owner?_eq_some.mpr ⟨c, by rw [hid, hfound], isOwnedBy_iff.mp owned⟩, ?_⟩
      intro id'' hid'' _
      rw [hid]
      exact Option.some.inj hid''
    · cases he
  | forbidden read foreign =>
    obtain rfl := read.unchanged not_false
    exact ⟨.refl _, fun id hid => nomatch hid⟩
  | absent read start =>
    rename_i id m t
    obtain rfl := read.unchanged not_false
    obtain ⟨hfound, -⟩ | ⟨⟨e, he⟩, -⟩ := read
    · have hfound : m.find? id = none := (Except.ok.inj hfound).symm
      obtain ⟨hext, hown⟩ := start.isolated hs fun id' m' hm => hnew id' m' (List.mem_cons_of_mem _ hm)
      refine ⟨hext, fun id' hid' => ⟨hown id' hid', ?_⟩⟩
      intro id'' hid'' hrec
      obtain rfl := Option.some.inj hid''
      exact absurd (owner?_eq_none.mpr hfound) hrec
    · cases he

/-- A request that got as far as its conversation. -/
lemma ReadyRun.isolated {o : Orchestrator} {q : PipelineRequest} {t id ms} (hs : s.WellFormed)
    (h : ReadyRun mayFail o p q s t id ms s') (hnew : ∀ id m, ⟨.freshConversation, id, m⟩ ∈ t → new id) :
    Extends p new s s' ∧ s'.WellFormed ∧ s'.owner? id = some p ∧
      ∀ id', q.conversation = some id' → s.owner? id' ≠ none → id = id' := by
  obtain ⟨-, resolved, read⟩ := h
  obtain rfl := read.unchanged not_false
  have hs' : s'.WellFormed := runs_wellFormed resolved hs
  obtain ⟨x, hx, resolved⟩ := runs_resolve resolved
  obtain ⟨hext, hown⟩ := resolved.isolated hs fun id m hm => hnew id m (List.mem_append_left _ hm)
  obtain ⟨howner, hnamed⟩ := hown id (Option.some.inj hx).symm
  exact ⟨hext, hs', howner, hnamed⟩

lemma RefusedRun.isolated {o : Orchestrator} {q : PipelineRequest} {t e} (hs : s.WellFormed)
    (h : RefusedRun mayFail o p q s t e s') (hnew : ∀ id m, ⟨.freshConversation, id, m⟩ ∈ t → new id) :
    Extends p new s s' := by
  cases h with
  | invalid bad => exact .refl _
  | unresolved valid resolved =>
    obtain ⟨x, -, resolved⟩ := runs_resolve resolved
    exact (resolved.isolated hs hnew).1
  | unread valid resolved read =>
    obtain rfl := read.unchanged not_false
    obtain ⟨x, -, resolved⟩ := runs_resolve resolved
    exact (resolved.isolated hs fun id m hm => hnew id m (List.mem_append_left _ hm)).1

lemma append_isolated {m : Message} {a} (hs : s.WellFormed) (h : mayFail (.appendMessage m) s a s')
    (hp : s.owner? m.conversation = some p) : Extends p new s s' := by
  rcases h with h | ⟨-, rfl⟩
  · rw [show s' = (s.append m).2 from congrArg Prod.snd h]
    exact .append hs hp
  · exact .refl _

lemma PersistRun.isolated {id : ConversationId} {prompt content model tokens latency t} (hs : s.WellFormed)
    (h : PersistRun mayFail id prompt content model tokens latency s t s') (hp : s.owner? id = some p) :
    Extends p new s s' := by
  obtain ⟨drawn, clock, asked, drawn', clock', answered⟩ := h
  obtain rfl := drawn.unchanged not_false
  obtain rfl := clock.unchanged not_false
  have hasked : Extends p new _ _ := append_isolated hs asked hp
  have hs' := asked.wellFormed hs
  obtain rfl := drawn'.unchanged not_false
  obtain rfl := clock'.unchanged not_false
  exact hasked.trans (append_isolated hs' answered (hasked.kept hp))

lemma relayed_unchanged {id : ConversationId} {feed : Feed} {t r}
    (h : Runs mayFail (relayFeed (fun f => perform (.offer f)) id feed) s t r s') : s' = s :=
  runs_unchanged (relayFeed_only (fun _ => .perform not_false) id feed) h

lemma CompleteRun.isolated {o : Orchestrator} {q : PipelineRequest} {t x} (hs : s.WellFormed)
    (h : CompleteRun mayFail o p q s t x s') (hnew : ∀ id m, ⟨.freshConversation, id, m⟩ ∈ t → new id) :
    Extends p new s s' ∧ ∀ r, x = .ok r → s'.owner? r.conversation = some p ∧
      ∀ id, q.conversation = some id → s.owner? id ≠ none → r.conversation = id := by
  cases h with
  | refused h => exact ⟨h.isolated hs hnew, fun r hr => nomatch hr⟩
  | hit ready looked found timed =>
    obtain ⟨hext, -, hown, hnamed⟩ := ready.isolated hs fun id m hm => hnew id m (List.mem_append_left _ hm)
    obtain rfl := looked.unchanged not_false
    obtain rfl := timed.unchanged not_false
    refine ⟨hext, ?_⟩
    intro r hr
    obtain rfl := Except.ok.inj hr
    exact ⟨hown, hnamed⟩
  | failed ready looked missed asked =>
    obtain ⟨hext, -, -, -⟩ := ready.isolated hs fun id m hm => hnew id m (List.mem_append_left _ hm)
    obtain rfl := looked.unchanged not_false
    obtain rfl := asked.unchanged not_false
    exact ⟨hext, fun r hr => nomatch hr⟩
  | answered ready looked missed asked drawn timed kept persisted =>
    obtain ⟨hext, hs', hown, hnamed⟩ := ready.isolated hs fun id m hm => hnew id m (List.mem_append_left _ hm)
    obtain rfl := looked.unchanged not_false
    obtain rfl := asked.unchanged not_false
    obtain rfl := drawn.unchanged not_false
    obtain rfl := timed.unchanged not_false
    obtain rfl := kept.unchanged not_false
    have hpersist : Extends p new _ s' := persisted.isolated hs' hown
    refine ⟨hext.trans hpersist, ?_⟩
    intro r hr
    obtain rfl := Except.ok.inj hr
    exact ⟨hpersist.kept hown, hnamed⟩

lemma StreamRun.isolated {o : Orchestrator} {q : PipelineRequest} {t r} (hs : s.WellFormed)
    (h : StreamRun mayFail o (fun f => perform (.offer f)) p q s t r s')
    (hnew : ∀ id m, ⟨.freshConversation, id, m⟩ ∈ t → new id) :
    Extends p new s s' ∧ ∀ id, r = some (.ok id) → s'.owner? id = some p ∧
      ∀ id', q.conversation = some id' → s.owner? id' ≠ none → id = id' := by
  cases h with
  | refused h => exact ⟨h.isolated hs hnew, fun id hid => nomatch hid⟩
  | silent ready opened relayed =>
    obtain ⟨hext, -, -, -⟩ := ready.isolated hs fun id m hm => hnew id m (List.mem_append_left _ hm)
    obtain rfl := opened.unchanged not_false
    obtain rfl := relayed_unchanged relayed
    exact ⟨hext, fun id hid => nomatch hid⟩
  | failed ready opened relayed =>
    obtain ⟨hext, -, -, -⟩ := ready.isolated hs fun id m hm => hnew id m (List.mem_append_left _ hm)
    obtain rfl := opened.unchanged not_false
    obtain rfl := relayed_unchanged relayed
    exact ⟨hext, fun id hid => nomatch hid⟩
  | finished ready opened relayed persisted =>
    obtain ⟨hext, hs', hown, hnamed⟩ := ready.isolated hs fun id m hm => hnew id m (List.mem_append_left _ hm)
    obtain rfl := opened.unchanged not_false
    obtain rfl := relayed_unchanged relayed
    have hpersist : Extends p new _ s' := persisted.isolated hs' hown
    refine ⟨hext.trans hpersist, ?_⟩
    intro id' hid'
    obtain rfl := Except.ok.inj (Option.some.inj hid')
    exact ⟨hpersist.kept hown, hnamed⟩

/-! ### Listings -/

/-- What a caller is told of a conversation's messages by a store that works. -/
def listing (s : Memory) (p : Principal) (id : ConversationId) : Except PipelineError (List Message) :=
  match s.find? id with
  | none => .error (.conversationNotFound id.text)
  | some c => if c.isOwnedBy p then .ok (s.messagesOf id) else .error (.conversationForbidden id.text)

lemma returns_listMessages {id : ConversationId} {r} : Returns mayFail (listMessages p id) s r ↔
    (∃ e, r = .error (.store e)) ∨ r = listing s p id := by
  constructor
  · rintro ⟨t, s', h⟩
    obtain ⟨x, hx, h⟩ := runs_listMessages.mp h
    obtain rfl := Option.some.inj hx
    unfold listing
    cases h with
    | unread read => exact .inl ⟨_, rfl⟩
    | absent read =>
      obtain ⟨hfound, -⟩ | ⟨⟨e, he⟩, -⟩ := read
      · rw [← Except.ok.inj hfound]
        exact .inr rfl
      · cases he
    | forbidden read foreign =>
      obtain ⟨hfound, -⟩ | ⟨⟨e, he⟩, -⟩ := read
      · rw [← Except.ok.inj hfound]
        exact .inr (by simp [foreign])
      · cases he
    | told read owned told =>
      obtain rfl := read.unchanged not_false
      obtain ⟨hfound, -⟩ | ⟨⟨e, he⟩, -⟩ := read
      · rw [← Except.ok.inj hfound]
        rcases told with ⟨rfl, -⟩ | ⟨⟨e, rfl⟩, -⟩
        · exact .inr (by simp [owned, Except.mapError])
        · exact .inl ⟨e, rfl⟩
      · cases he
  · have hfinds : mayFail (.findConversation id) s (.ok (s.find? id)) s := .inl ⟨rfl, rfl⟩
    rintro (⟨e, rfl⟩ | rfl)
    · exact ⟨_, s, runs_listMessages.mpr ⟨_, rfl, .unread (.inr ⟨⟨e, rfl⟩, rfl⟩)⟩⟩
    · unfold listing
      cases hfound : s.find? id with
      | none =>
        rw [hfound] at hfinds
        exact ⟨_, s, runs_listMessages.mpr ⟨_, rfl, .absent hfinds⟩⟩
      | some c =>
        rw [hfound] at hfinds
        dsimp only
        split
        · rename_i owned
          have htold : mayFail (.listMessages id) s (.ok (s.messagesOf id)) s := .inl ⟨rfl, rfl⟩
          exact ⟨_, s, runs_listMessages.mpr ⟨_, rfl, .told hfinds owned htold⟩⟩
        · rename_i foreign
          exact ⟨_, s, runs_listMessages.mpr ⟨_, rfl, .forbidden hfinds (by simpa using foreign)⟩⟩

lemma returns_listConversations {r} : Returns mayFail (listConversations p) s r ↔
    (∃ e, r = .error (.store e)) ∨ ∃ m, s.Reordered m ∧ r = .ok (m.ownedBy p listLimit) := by
  constructor
  · rintro ⟨t, s', h⟩
    obtain ⟨x, hx, told, -⟩ := runs_listConversations.mp h
    obtain rfl := Option.some.inj hx
    rcases told with ⟨⟨m, hm, rfl⟩, -⟩ | ⟨⟨e, rfl⟩, -⟩
    · exact .inr ⟨m, hm, rfl⟩
    · exact .inl ⟨e, rfl⟩
  · rintro (⟨e, rfl⟩ | ⟨m, hm, rfl⟩)
    · exact ⟨_, s, runs_listConversations.mpr ⟨.error e, rfl, .inr ⟨⟨e, rfl⟩, rfl⟩, rfl⟩⟩
    · exact ⟨_, s, runs_listConversations.mpr ⟨.ok _, rfl, .inl ⟨⟨m, hm, rfl⟩, rfl⟩, rfl⟩⟩

/-- The map may go through a caller's conversations in any order. -/
lemma returns_listConversations_of_perm (hs : s.WellFormed) {cs : List Conversation} (hcs : cs.Perm (s.owned p)) :
    Returns mayFail (listConversations p) s (.ok ((cs.mergeSort newer).take listLimit)) := by
  obtain ⟨m, hm, rfl⟩ := hs.exists_reordered hcs
  exact returns_listConversations.mpr (.inr ⟨m, hm, rfl⟩)

lemma returns_listConversations_of_sorted (hs : s.WellFormed) {cs : List Conversation} (hcs : cs.Perm (s.owned p))
    (hsorted : cs.Pairwise fun c d => newer c d = true) (hfew : cs.length ≤ listLimit) :
    Returns mayFail (listConversations p) s (.ok cs) := by
  have h := returns_listConversations_of_perm hs hcs
  rwa [List.mergeSort_of_pairwise hsorted, List.take_of_length_le hfew] at h

/-- Whatever a caller may be told, one who owns the same may be told too. -/
lemma returns_listConversations_of_owned (hs : s.WellFormed) (howned : (s'.owned p).Perm (s.owned p)) {r}
    (h : Returns mayFail (listConversations p) s' r) : Returns mayFail (listConversations p) s r := by
  rcases returns_listConversations.mp h with ⟨e, rfl⟩ | ⟨m, hm, rfl⟩
  · exact returns_listConversations.mpr (.inl ⟨e, rfl⟩)
  · exact returns_listConversations_of_perm hs ((hm.owned_perm p).trans howned)

/-- Conversations of different times leave the map no choice. -/
lemma returns_listConversations_of_nodup (hdistinct : ((s.owned p).map (·.updatedAt)).Nodup) {cs} :
    Returns mayFail (listConversations p) s (.ok cs) ↔ cs = s.ownedBy p listLimit := by
  simp only [returns_listConversations, reduceCtorEq, exists_false, false_or, Except.ok.injEq]
  constructor
  · rintro ⟨m, hm, rfl⟩
    exact hm.ownedBy_eq hdistinct _
  · rintro rfl
    exact ⟨s, .refl s, rfl⟩

lemma listMessages_only (p : Principal) (id : ConversationId) : (listMessages p id).Only fun c => ¬ writes c := by
  refine Only.bind (Only.bind (.perform not_false) ?_) ?_
  · rintro (e | x) <;> trivial
  · rintro (e | (_ | c))
    · trivial
    · trivial
    · dsimp only
      split
      · refine Only.bind (.perform not_false) ?_
        rintro (e | x) <;> trivial
      · trivial

lemma listConversations_only (p : Principal) : (listConversations p).Only fun c => ¬ writes c := by
  refine Only.bind (.perform not_false) ?_
  rintro (e | x) <;> trivial

lemma listing_absent {id : ConversationId} (h : s.owner? id = none) :
    listing s p id = .error (.conversationNotFound id.text) := by
  simp only [listing, owner?_eq_none.mp h]

lemma listing_foreign {q : Principal} {id : ConversationId} (h : s.owner? id = some q) (hq : q ≠ p) :
    listing s p id = .error (.conversationForbidden id.text) := by
  obtain ⟨c, hc, rfl⟩ := owner?_eq_some.mp h
  simp [listing, hc, Conversation.isOwnedBy, hq]

/-- Nothing that others do to the store shows in a listing, unless it is of a conversation that they began. -/
lemma listing_extends {q : Principal} {id : ConversationId} (h : Extends p new s s') (hq : q ≠ p)
    (hid : s.owner? id = none → s'.owner? id = none) : listing s' q id = listing s q id := by
  cases hs : s.owner? id with
  | none => rw [listing_absent hs, listing_absent (hid hs)]
  | some r =>
    obtain ⟨c, hc, hcr⟩ := owner?_eq_some.mp hs
    obtain ⟨c', hc', hcr'⟩ := owner?_eq_some.mp (h.kept hs)
    have howned : c'.isOwnedBy q = c.isOwnedBy q := by simp [Conversation.isOwnedBy, hcr, hcr']
    simp only [listing, hc, hc', howned]
    split
    · rename_i hown
      -- the conversation is `q`'s, and so nothing was said in it
      obtain ⟨ms, hms, hp⟩ := h.said
      have hnone : ms.filter (fun m => m.conversation = id) = [] := by
        rw [List.filter_eq_nil_iff]
        intro m hm hmid
        have hown' : s'.owner? id = some q := by rw [h.kept hs, ← hcr, isOwnedBy_iff.mp hown]
        rw [← of_decide_eq_true hmid, hp m hm] at hown'
        exact hq (Option.some.inj hown').symm
      simp [messagesOf, hms, hnone]
    · rfl

/-- A listing that succeeds shows a conversation of the caller. -/
lemma listing_eq_ok {id : ConversationId} {ms} (h : listing s p id = .ok ms) :
    s.owner? id = some p ∧ ms = s.messagesOf id := by
  unfold listing at h
  split at h
  · cases h
  · rename_i c hc
    split at h
    · rename_i hown
      exact ⟨owner?_eq_some.mpr ⟨c, hc, isOwnedBy_iff.mp hown⟩, (Except.ok.inj h).symm⟩
    · cases h

end Orchestrator

/-! ### Whole histories -/

/-- The run drew an identifier for a conversation. -/
def Entry.Drew {σ : Type} (e : Entry σ) (id : ConversationId) : Prop := ∃ s, ⟨.freshConversation, id, s⟩ ∈ e.trace

/-- The messages that the run put on record. -/
def Entry.recorded (e : Entry Memory) : List Message := e.trace.filterMap recorded?

lemma Entry.Ran.isolated {o : Orchestrator} {e : Entry Memory} (hs : e.before.WellFormed) (h : e.Ran mayFail o) :
    Extends e.op.principal e.Drew e.before e.after ∧
    ∀ a id, e.result = some (.ok a) → e.op.answeredIn? a = some id → e.after.owner? id = some e.op.principal ∧
      ∀ named, e.op.named? = some named → e.before.owner? named ≠ none → id = named := by
  obtain ⟨op, s, t, r, s'⟩ := e
  cases op with
  | complete p q =>
    obtain ⟨x, rfl, hrun⟩ := Orchestrator.runs_complete h
    obtain ⟨hext, hanswer⟩ := hrun.isolated hs fun id m hm =>
      (⟨m, hm⟩ : Entry.Drew ⟨.complete p q, s, t, some x, s'⟩ id)
    refine ⟨hext, ?_⟩
    intro a id ha hid
    obtain rfl : a.conversation = id := Option.some.inj hid
    exact hanswer a (Option.some.inj ha)
  | stream p q =>
    obtain ⟨hext, hanswer⟩ := (Orchestrator.runs_stream h).isolated hs
      fun id m hm => (⟨m, hm⟩ : Entry.Drew ⟨.stream p q, s, t, r, s'⟩ id)
    refine ⟨hext, ?_⟩
    intro a id ha hid
    obtain rfl : a = id := Option.some.inj hid
    exact hanswer a ha
  | listMessages p id =>
    obtain rfl : s' = s := runs_unchanged (Orchestrator.listMessages_only p id) h
    exact ⟨.refl _, fun a id' _ hid => nomatch hid⟩
  | listConversations p =>
    obtain rfl : s' = s := runs_unchanged (Orchestrator.listConversations_only p) h
    exact ⟨.refl _, fun a id' _ hid => nomatch hid⟩

/-- The identifier that a call drew for a conversation. -/
def drawn? {σ : Type} : Event σ → Option ConversationId
  | ⟨.freshConversation, id, _⟩ => some id
  | _ => none

lemma Entry.drew_iff {σ : Type} {e : Entry σ} {id : ConversationId} :
    e.Drew id ↔ id ∈ e.trace.filterMap drawn? := by
  rw [List.mem_filterMap]
  constructor
  · rintro ⟨s, hs⟩
    exact ⟨_, hs, rfl⟩
  · rintro ⟨⟨c, a, s⟩, hs, hid⟩
    cases c <;> cases hid
    exact ⟨s, hs⟩

/-- Identifiers drawn for conversations are new: none is on record, and no request so far has named it. -/
def DrawnFresh (es : List (Entry Memory)) : Prop :=
  ∀ pre e post, es = pre ++ e :: post → ∀ id, e.Drew id →
    e.before.owner? id = none ∧ ∀ f ∈ pre ++ [e], f.op.named? ≠ some id

/-- The run began the conversation. -/
def Entry.Begins (e : Entry Memory) (id : ConversationId) : Prop :=
  e.before.owner? id = none ∧ e.after.owner? id ≠ none

lemma DrawnFresh.nil : DrawnFresh [] := by
  intro pre e post hes
  simp at hes

lemma DrawnFresh.snoc {es : List (Entry Memory)} {e : Entry Memory} (h : DrawnFresh es)
    (he : ∀ id ∈ e.trace.filterMap drawn?, e.before.owner? id = none ∧ ∀ f ∈ es ++ [e], f.op.named? ≠ some id) :
    DrawnFresh (es ++ [e]) := by
  intro pre f post hes id hdrew
  rcases List.eq_nil_or_concat post with rfl | ⟨post, g, rfl⟩
  · obtain ⟨rfl, hef⟩ := List.append_inj' hes rfl
    obtain rfl := List.singleton_inj.mp hef
    exact he id (Entry.drew_iff.mp hdrew)
  · rw [List.concat_eq_append, ← List.cons_append, ← List.append_assoc] at hes
    obtain ⟨rfl, -⟩ := List.append_inj' hes rfl
    exact h pre f post rfl id hdrew

/-- What callers can rely on after the requests of all of them. -/
structure Isolated (es : List (Entry Memory)) (s : Memory) : Prop where
  /-- A conversation keeps its owner. -/
  kept : ∀ e ∈ es, ∀ id p, e.before.owner? id = some p → e.after.owner? id = some p ∧ s.owner? id = some p
  /-- A new conversation is the caller's, under an identifier that was drawn for it and not named by a request. -/
  begun : ∀ pre e post, es = pre ++ e :: post → ∀ id p, e.before.owner? id = none → e.after.owner? id = some p →
    p = e.op.principal ∧ e.Drew id ∧ ∀ f ∈ pre ++ [e], f.op.named? ≠ some id
  /-- All messages on record were put there by one of the runs, -/
  recorded : s.messages = es.flatMap Entry.recorded
  /-- namely one of the owner of their conversation. -/
  writer : ∀ e ∈ es, ∀ m ∈ e.recorded, s.owner? m.conversation = some e.op.principal
  /-- An answer is given in a conversation of the caller, the one that was named if that was on record. -/
  answered : ∀ e ∈ es, ∀ a id, e.result = some (.ok a) → e.op.answeredIn? a = some id →
    e.after.owner? id = some e.op.principal ∧ s.owner? id = some e.op.principal ∧
      ∀ named, e.op.named? = some named → e.before.owner? named ≠ none → id = named
  /-- What others are told of a conversation is what they were told before, -/
  messages : ∀ e ∈ es, ∀ p, p ≠ e.op.principal → ∀ id, ¬ e.Begins id → ∀ r,
    Returns mayFail (Orchestrator.listMessages p id) e.after r ↔
      Returns mayFail (Orchestrator.listMessages p id) e.before r
  /-- unless it just began: it was unknown, and now they are refused it. -/
  refused : ∀ e ∈ es, ∀ p, p ≠ e.op.principal → ∀ id, e.Begins id → ∀ r,
    (Returns mayFail (Orchestrator.listMessages p id) e.before r ↔
      (∃ f, r = .error (.store f)) ∨ r = .error (.conversationNotFound id.text)) ∧
    (Returns mayFail (Orchestrator.listMessages p id) e.after r ↔
      (∃ f, r = .error (.store f)) ∨ r = .error (.conversationForbidden id.text))
  /-- Others are told of the same conversations as before, in an order in which the map may go through them, -/
  conversations : ∀ e ∈ es, ∀ p, p ≠ e.op.principal → ∀ r,
    Returns mayFail (Orchestrator.listConversations p) e.after r ↔
      Returns mayFail (Orchestrator.listConversations p) e.before r
  /-- and of one list where theirs were updated at different times. -/
  settled : ∀ e ∈ es, ∀ p, p ≠ e.op.principal → ((e.before.owned p).map (·.updatedAt)).Nodup → ∃ cs, ∀ cs',
    (Returns mayFail (Orchestrator.listConversations p) e.before (.ok cs') ↔ cs' = cs) ∧
    (Returns mayFail (Orchestrator.listConversations p) e.after (.ok cs') ↔ cs' = cs)
  /-- Callers are told of the messages of their own conversations only, and of their own conversations only. -/
  confined : ∀ p,
    (∀ id ms, Returns mayFail (Orchestrator.listMessages p id) s (.ok ms) →
      s.owner? id = some p ∧ ∀ m ∈ ms, m.conversation = id) ∧
    ∀ cs, Returns mayFail (Orchestrator.listConversations p) s (.ok cs) → ∀ c ∈ cs, s.owner? c.id = some p

namespace History
variable {o : Orchestrator} {es : List (Entry Memory)} {s s' : Memory}

lemma wellFormed (h : History mayFail o s es s') (hs : s.WellFormed) : s'.WellFormed :=
  h.related (fun s s' => s.WellFormed → s'.WellFormed) (fun _ h => h) (fun h h' => h' ∘ h)
    (fun _ he => runs_wellFormed (h.ran he)) hs

lemma kept (h : History mayFail o s es s') (hs : s.WellFormed) {id : ConversationId} {p : Principal}
    (hp : s.owner? id = some p) : s'.owner? id = some p := by
  induction h with
  | nil => exact hp
  | snoc e earlier ran ih => exact (ran.isolated (earlier.wellFormed hs)).1.kept ih

lemma messages (h : History mayFail o s es s') : s'.messages = s.messages ++ es.flatMap Entry.recorded := by
  induction h with
  | nil => simp
  | snoc e earlier ran ih =>
    rw [runs_messages ran, ih]
    simp [Entry.recorded]

end History

/-- What a run put on record belongs to its caller. -/
lemma Entry.Ran.writer {o : Orchestrator} {e : Entry Memory} (hs : e.before.WellFormed) (h : e.Ran mayFail o) :
    ∀ m ∈ e.recorded, e.after.owner? m.conversation = some e.op.principal := by
  obtain ⟨ms, hms, hp⟩ := (h.isolated hs).1.said
  obtain rfl : e.recorded = ms := List.append_cancel_left ((runs_messages h).symm.trans hms)
  exact hp

/-! ### What others are told after a run -/

/-- A conversation that began before the run or has not begun yet is told of as before. -/
lemma Entry.Ran.messages {o : Orchestrator} {e : Entry Memory} (hs : e.before.WellFormed) (h : e.Ran mayFail o)
    {p : Principal} (hp : p ≠ e.op.principal) {id : ConversationId} (hid : ¬ e.Begins id) (r) :
    Returns mayFail (Orchestrator.listMessages p id) e.after r ↔
      Returns mayFail (Orchestrator.listMessages p id) e.before r := by
  have hlisting : Orchestrator.listing e.after p id = Orchestrator.listing e.before p id :=
    Orchestrator.listing_extends (h.isolated hs).1 hp fun hnone => by_contra fun hsome => hid ⟨hnone, hsome⟩
  rw [Orchestrator.returns_listMessages, Orchestrator.returns_listMessages, hlisting]

/-- One that began in the run was unknown, and is somebody else's now. -/
lemma Entry.Ran.refused {o : Orchestrator} {e : Entry Memory} (hs : e.before.WellFormed) (h : e.Ran mayFail o)
    {p : Principal} (hp : p ≠ e.op.principal) {id : ConversationId} (hid : e.Begins id) :
    Orchestrator.listing e.before p id = .error (.conversationNotFound id.text) ∧
      Orchestrator.listing e.after p id = .error (.conversationForbidden id.text) := by
  obtain ⟨hnone, hsome⟩ := hid
  obtain ⟨q, hq⟩ := Option.ne_none_iff_exists'.mp hsome
  rcases (h.isolated hs).1.begun hq with hq' | ⟨-, rfl, -⟩
  · rw [hnone] at hq'
    cases hq'
  · exact ⟨Orchestrator.listing_absent hnone, Orchestrator.listing_foreign hq hp.symm⟩

/-- Others may be told of the same conversations after a run as before. -/
lemma Entry.Ran.conversations {o : Orchestrator} {e : Entry Memory} (hs : e.before.WellFormed) (h : e.Ran mayFail o)
    {p : Principal} (hp : p ≠ e.op.principal) (r) : Returns mayFail (Orchestrator.listConversations p) e.after r ↔
      Returns mayFail (Orchestrator.listConversations p) e.before r := by
  have howned := (h.isolated hs).1.owned hp
  exact ⟨Orchestrator.returns_listConversations_of_owned hs howned,
    Orchestrator.returns_listConversations_of_owned (runs_wellFormed h hs) howned.symm⟩

/-- Callers are isolated from each other in every history of a store that begins empty. -/
theorem History.callers_isolated {o : Orchestrator} {es : List (Entry Memory)} {s : Memory}
    (h : History mayFail o .empty es s) (hdrawn : DrawnFresh es) : Isolated es s := by
  have hs : s.WellFormed := h.wellFormed wellFormed_empty
  -- what is known of a run in the midst of the others
  have hrun : ∀ e ∈ es, e.before.WellFormed ∧ e.Ran mayFail o ∧
      ∀ id p, e.after.owner? id = some p → s.owner? id = some p := by
    intro e he
    obtain ⟨pre, post, rfl⟩ := List.append_of_mem he
    obtain ⟨hpre, ran, hpost⟩ := h.split
    have hbefore := hpre.wellFormed wellFormed_empty
    exact ⟨hbefore, ran, fun id p => hpost.kept (runs_wellFormed ran hbefore)⟩
  constructor
  case kept =>
    intro e he id p hp
    obtain ⟨hbefore, ran, hlast⟩ := hrun e he
    have hafter := (ran.isolated hbefore).1.kept hp
    exact ⟨hafter, hlast id p hafter⟩
  case begun =>
    intro pre e post hes id p hnone hp
    obtain ⟨hbefore, ran, -⟩ := hrun e (by rw [hes]; simp)
    rcases (ran.isolated hbefore).1.begun hp with hp | ⟨-, rfl, hdrew⟩
    · rw [hnone] at hp
      cases hp
    · exact ⟨rfl, hdrew, (hdrawn pre e post hes id hdrew).2⟩
  case recorded => simpa [Memory.empty] using h.messages
  case writer =>
    intro e he m hm
    obtain ⟨hbefore, ran, hlast⟩ := hrun e he
    exact hlast _ _ (ran.writer hbefore m hm)
  case answered =>
    intro e he a id ha hid
    obtain ⟨hbefore, ran, hlast⟩ := hrun e he
    obtain ⟨hafter, hnamed⟩ := (ran.isolated hbefore).2 a id ha hid
    exact ⟨hafter, hlast id _ hafter, hnamed⟩
  case messages =>
    intro e he p hp id hid r
    obtain ⟨hbefore, ran, -⟩ := hrun e he
    exact ran.messages hbefore hp hid r
  case refused =>
    intro e he p hp id hid r
    obtain ⟨hbefore, ran, -⟩ := hrun e he
    obtain ⟨hunknown, hforbidden⟩ := ran.refused hbefore hp hid
    rw [Orchestrator.returns_listMessages, Orchestrator.returns_listMessages, hunknown, hforbidden]
    exact ⟨.rfl, .rfl⟩
  case conversations =>
    intro e he p hp r
    obtain ⟨hbefore, ran, -⟩ := hrun e he
    exact ran.conversations hbefore hp r
  case settled =>
    intro e he p hp hdistinct
    obtain ⟨hbefore, ran, -⟩ := hrun e he
    refine ⟨_, fun cs => ⟨Orchestrator.returns_listConversations_of_nodup hdistinct, ?_⟩⟩
    rw [ran.conversations hbefore hp, Orchestrator.returns_listConversations_of_nodup hdistinct]
  case confined =>
    intro p
    constructor
    · intro id ms hms
      simp only [Orchestrator.returns_listMessages, reduceCtorEq, exists_false, false_or] at hms
      obtain ⟨hown, rfl⟩ := Orchestrator.listing_eq_ok hms.symm
      exact ⟨hown, fun m hm => of_decide_eq_true (List.mem_filter.mp hm).2⟩
    · intro cs hcs c hc
      simp only [Orchestrator.returns_listConversations, reduceCtorEq, exists_false, false_or] at hcs
      obtain ⟨m, hm, hcs⟩ := hcs
      rw [Except.ok.inj hcs] at hc
      exact hs.owner?_of_mem ((hm.owned_perm p).mem_iff.mp (List.mem_mergeSort.mp (List.mem_of_mem_take hc)))

/-! A history of two callers: Alice begins a conversation, and Bob asks for it. -/

def aliceBegins : Entry Memory :=
  .under (steady ⟨"", "", "", none, none⟩ ⟨[⟨"1", "Hi", none, none⟩], .finished⟩) ⟨.none, 20, 100, ⟨"m", default, 0⟩, 0⟩
    (.stream ⟨"alice"⟩ ⟨"Hello", none, true, none, none, none⟩) .empty

def bobIntrudes : Entry Memory :=
  .under (steady ⟨"", "", "", none, none⟩ ⟨[], .finished⟩) ⟨.none, 20, 100, ⟨"m", default, 0⟩, 0⟩
    (.stream ⟨"bob"⟩ ⟨"Show me", some ⟨⟨0⟩⟩, true, none, none, none⟩) aliceBegins.after

lemma bobIntrudes_trace : bobIntrudes.trace =
    [⟨.findConversation ⟨⟨0⟩⟩, .ok (some ⟨⟨⟨0⟩⟩, ⟨"alice"⟩, none, default, default⟩), aliceBegins.after⟩] := rfl

lemma intrusion_history : History mayFail ⟨.none, 20, 100, ⟨"m", default, 0⟩, 0⟩ .empty [aliceBegins, bobIntrudes]
    bobIntrudes.after :=
  History.mono works.mayFail (History.under (steady_works _ _) (History.under (steady_works _ _) .nil _) _)

lemma aliceBegins_drawnFresh : DrawnFresh [aliceBegins] :=
  DrawnFresh.nil.snoc fun id _ => ⟨rfl, by simp [aliceBegins, Entry.under, Operation.named?]⟩

lemma intrusion_drawnFresh : DrawnFresh [aliceBegins, bobIntrudes] :=
  aliceBegins_drawnFresh.snoc fun id hid => by simp [bobIntrudes_trace, drawn?] at hid

theorem History.callers_isolated_intrusion :
    History mayFail ⟨.none, 20, 100, ⟨"m", default, 0⟩, 0⟩ .empty [aliceBegins, bobIntrudes] bobIntrudes.after ∧
    DrawnFresh [aliceBegins, bobIntrudes] ∧ Isolated [aliceBegins, bobIntrudes] bobIntrudes.after ∧
    bobIntrudes.after.messages.map (·.content) = ["Hello", "Hi"] :=
  ⟨intrusion_history, intrusion_drawnFresh, intrusion_history.callers_isolated intrusion_drawnFresh, rfl⟩

/-! Alice begins another conversation in the same instant, and then Bob begins one. -/

def aliceBeginsAnother : Entry Memory :=
  .under (steady ⟨"", "", "", none, none⟩ ⟨[⟨"1", "Hi", none, none⟩], .finished⟩) ⟨.none, 20, 100, ⟨"m", default, 0⟩, 0⟩
    (.stream ⟨"alice"⟩ ⟨"Hello again", none, true, none, none, none⟩) aliceBegins.after

def bobBegins : Entry Memory :=
  .under (steady ⟨"", "", "", none, none⟩ ⟨[⟨"1", "Hi", none, none⟩], .finished⟩) ⟨.none, 20, 100, ⟨"m", default, 0⟩, 0⟩
    (.stream ⟨"bob"⟩ ⟨"Hello", none, true, none, none, none⟩) aliceBeginsAnother.after

lemma beginnings_history : History mayFail ⟨.none, 20, 100, ⟨"m", default, 0⟩, 0⟩ .empty
    [aliceBegins, aliceBeginsAnother, bobBegins] bobBegins.after :=
  History.mono works.mayFail
    (History.under (steady_works _ _) (History.under (steady_works _ _) (History.under (steady_works _ _) .nil _) _) _)

lemma beginnings_drawnFresh : DrawnFresh [aliceBegins, aliceBeginsAnother, bobBegins] := by
  have hanother : aliceBeginsAnother.trace.filterMap drawn? = [⟨⟨1⟩⟩] := rfl
  have hbob : bobBegins.trace.filterMap drawn? = [⟨⟨2⟩⟩] := rfl
  refine (aliceBegins_drawnFresh.snoc (e := aliceBeginsAnother) fun id hid => ?_).snoc fun id hid => ?_
  · rw [hanother, List.mem_singleton] at hid
    exact hid ▸ ⟨rfl, by simp [aliceBegins, aliceBeginsAnother, Entry.under, Operation.named?]⟩
  · rw [hbob, List.mem_singleton] at hid
    exact hid ▸ ⟨rfl, by simp [aliceBegins, aliceBeginsAnother, bobBegins, Entry.under, Operation.named?]⟩

/-- Alice can tell that a conversation of Bob's is there, and two of hers of one time may change places. -/
theorem History.beginning_told :
    History mayFail ⟨.none, 20, 100, ⟨"m", default, 0⟩, 0⟩ .empty [aliceBegins, aliceBeginsAnother, bobBegins]
      bobBegins.after ∧
    DrawnFresh [aliceBegins, aliceBeginsAnother, bobBegins] ∧ bobBegins.op.principal = ⟨"bob"⟩ ∧
    (∃ id, Returns mayFail (Orchestrator.listMessages ⟨"alice"⟩ id) bobBegins.before
        (.error (.conversationNotFound id.text)) ∧
      ¬ Returns mayFail (Orchestrator.listMessages ⟨"alice"⟩ id) bobBegins.after
        (.error (.conversationNotFound id.text)) ∧
      Returns mayFail (Orchestrator.listMessages ⟨"alice"⟩ id) bobBegins.after
        (.error (.conversationForbidden id.text))) ∧
    ∃ c d, c ≠ d ∧ Returns mayFail (Orchestrator.listConversations ⟨"alice"⟩) bobBegins.before (.ok [c, d]) ∧
      Returns mayFail (Orchestrator.listConversations ⟨"alice"⟩) bobBegins.after (.ok [d, c]) := by
  refine ⟨beginnings_history, beginnings_drawnFresh, rfl, ⟨⟨⟨2⟩⟩, ?_⟩,
    .start ⟨⟨0⟩⟩ default ⟨"alice"⟩, .start ⟨⟨1⟩⟩ default ⟨"alice"⟩, by decide, ?_⟩
  · have hbob : bobBegins.after.owner? ⟨⟨2⟩⟩ = some ⟨"bob"⟩ := rfl
    have hbefore : Orchestrator.listing bobBegins.before ⟨"alice"⟩ ⟨⟨2⟩⟩ = _ := Orchestrator.listing_absent rfl
    have hafter : Orchestrator.listing bobBegins.after ⟨"alice"⟩ ⟨⟨2⟩⟩ = _ :=
      Orchestrator.listing_foreign hbob (by decide)
    simp only [Orchestrator.returns_listMessages, hbefore, hafter]
    simp
  · have hsplit : History mayFail _ .empty ([aliceBegins, aliceBeginsAnother] ++ [bobBegins]) bobBegins.after :=
      beginnings_history
    have hbefore := hsplit.split.1.wellFormed wellFormed_empty
    have hafter := beginnings_history.wellFormed wellFormed_empty
    exact ⟨Orchestrator.returns_listConversations_of_sorted hbefore (.refl _) (by decide) (by decide),
      Orchestrator.returns_listConversations_of_sorted hafter (.swap _ _ _) (by decide) (by decide)⟩

end CompletionGateway
