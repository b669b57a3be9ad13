import CompletionGateway.Proofs.Pipeline.Isolation

/-! What is on record of a conversation, and what the backend is told of it. In every history of a store that begins
empty and works, the record of a conversation is the exchanges of the runs that ended well in it, in their order, and
a request to the backend tells the end of that record between the system prompt and the new prompt. -/
namespace CompletionGateway
open Program Store Store.Memory

/-- What was said in a run that ended well. -/
structure Dialogue where
  conversation : ConversationId
  prompt : String
  content : String
  deriving DecidableEq, Repr

def Dialogue.turns (x : Dialogue) : List Turn := [⟨.user, x.prompt⟩, ⟨.assistant, x.content⟩]

/-- The frame that a call handed to the consumer of a stream. -/
def offered? {σ : Type} : Event σ → Option StreamFrame
  | ⟨.offer f, .ok _, _⟩ => some f
  | _ => none

/-- The text of the frames that were handed to the consumer of a stream. -/
def offeredText {σ : Type} (t : List (Event σ)) : String :=
  ((t.filterMap offered?).map (·.delta)).foldl (· ++ ·) ""

/-- What the backend is asked by a call. -/
def asked? {σ : Type} : Event σ → Option CompletionRequest
  | ⟨.complete r, _, _⟩ => some r
  | ⟨.openFeed r, _, _⟩ => some r
  | _ => none

/-- What was said in a run that ended well without help of the cache. -/
def Entry.dialogue? {σ : Type} : Entry σ → Option Dialogue
  | ⟨.complete _ q, _, _, some (.ok r), _⟩ => if r.cached then none else some ⟨r.conversation, q.prompt, r.content⟩
  | ⟨.stream _ q, _, t, some (.ok id), _⟩ => some ⟨id, q.prompt, offeredText t⟩
  | _ => none

/-- What was said in a conversation, in the order of the runs. -/
def transcript {σ : Type} (es : List (Entry σ)) (id : ConversationId) : List Turn :=
  ((es.filterMap Entry.dialogue?).filter (·.conversation = id)).flatMap Dialogue.turns

lemma transcript_append {σ : Type} (es fs : List (Entry σ)) (id : ConversationId) :
    transcript (es ++ fs) id = transcript es id ++ transcript fs id := by simp [transcript]

/-- A caller's request for an answer, whole or streamed. -/
def Operation.request? : Operation → Option (Principal × PipelineRequest)
  | .complete p q => some (p, q)
  | .stream p q => some (p, q)
  | _ => none

/-- The run found or began the conversation that it is in. -/
def Entry.ResolvedTo {σ : Type} (κ : Conduct σ) (e : Entry σ) (id : ConversationId) : Prop :=
  ∃ p q t u s, e.op.request? = some (p, q) ∧ e.trace = t ++ u ∧
    Runs κ (Orchestrator.resolve p q.conversation) e.before t (some (.ok id)) s

/-- A run is in one conversation only. -/
lemma Entry.ResolvedTo.unique {σ : Type} {κ : Conduct σ} {e : Entry σ} {id id' : ConversationId}
    (h : e.ResolvedTo κ id) (h' : e.ResolvedTo κ id') : id = id' := by
  obtain ⟨p, q, t, u, s, hop, ht, hrun⟩ := h
  obtain ⟨p', q', t', u', s', hop', ht', hrun'⟩ := h'
  obtain ⟨rfl, rfl⟩ := Prod.ext_iff.mp (Option.some.inj (hop.symm.trans hop'))
  obtain ⟨-, hr, -⟩ := hrun.prefix_free hrun' (ht.symm.trans ht')
  exact Except.ok.inj (Option.some.inj hr)

/-- Calls of a kind that a reading of the trace passes over leave nothing to it. -/
lemma filterMap_eq_nil {σ β : Type} {K : Call → Prop} {f : Event σ → Option β}
    (hf : ∀ e : Event σ, K e.call → f e = none) {t : List (Event σ)} (ht : ∀ e ∈ t, K e.call) :
    t.filterMap f = [] :=
  List.filterMap_eq_nil_iff.mpr fun e he => hf e (ht e he)

lemma recorded?_eq_none {e : Event Memory} (h : Orchestrator.Preparing e.call) : recorded? e = none := by
  obtain ⟨c, a, m⟩ := e
  cases c <;> first | rfl | exact h.elim

/-- Calls that do not write put nothing on record. -/
lemma unwritten_unrecorded (e : Event Memory) (h : ¬ writes e.call) : recorded? e = none := by
  obtain ⟨c, a, m⟩ := e
  cases c <;> first | rfl | exact absurd trivial h

lemma offered?_eq_none {σ : Type} {e : Event σ} (h : Orchestrator.Preparing e.call) : offered? e = none := by
  obtain ⟨c, a, m⟩ := e
  cases c <;> first | rfl | exact h.elim

lemma asked?_eq_none {σ : Type} {e : Event σ} (h : Orchestrator.Preparing e.call) : asked? e = none := by
  obtain ⟨c, a, m⟩ := e
  cases c <;> first | rfl | exact h.elim

namespace Orchestrator
variable {s s' : Memory}

/-- What a run of a store that works knows when it goes on to cache and backend. -/
lemma ReadyRun.knows {o : Orchestrator} {p : Principal} {q : PipelineRequest} {t id ms} (hs : s.WellFormed)
    (h : ReadyRun works o p q s t id ms s') :
    s'.messages = s.messages ∧ ms = s.messagesOf id ∧ s'.WellFormed ∧ ∃ c, s'.find? id = some c := by
  have hquiet : t.filterMap recorded? = [] := filterMap_eq_nil (fun e => recorded?_eq_none) h.preparing
  have hdrawn : ∀ id m, ⟨.freshConversation, id, m⟩ ∈ t → (fun _ : ConversationId => True) id := fun _ _ _ => trivial
  obtain ⟨-, hs', hown, -⟩ := (h.mono works.mayFail).isolated hs hdrawn
  obtain ⟨valid, resolved, read⟩ := h
  obtain ⟨hms, rfl⟩ := read
  have hmessages : s'.messages = s.messages := by
    rw [List.filterMap_append, List.append_eq_nil_iff] at hquiet
    rw [runs_messages (resolved.mono works.mayFail), hquiet.1, List.append_nil]
  obtain ⟨c, hc, -⟩ := owner?_eq_some.mp hown
  refine ⟨hmessages, ?_, hs', c, hc⟩
  rw [Except.ok.inj hms, messagesOf, messagesOf, hmessages]

/-- A store that works has prompt and answer on record in the end. -/
lemma PersistRun.recorded {id : ConversationId} {prompt content model tokens latency t}
    (h : PersistRun works id prompt content model tokens latency s t s') {c} (hc : s.find? id = some c)
    (id' : ConversationId) : ((t.filterMap recorded?).filter (·.conversation = id')).map Message.turn =
      ([⟨id, prompt, content⟩].filter fun x : Dialogue => x.conversation = id').flatMap Dialogue.turns := by
  obtain ⟨drawn, clock, asked, drawn', clock', answered⟩ := h
  rename_i u m₁ w m₂ x m₃ u' m₄ w' m₅ x'
  obtain rfl : m₁ = s := drawn
  obtain rfl : m₂ = m₁ := clock
  have hasked := Prod.ext_iff.mp asked
  rw [append_present (m := .ofUser u w id prompt) hc] at hasked
  obtain ⟨rfl, hm₃⟩ := hasked
  obtain rfl : m₄ = m₃ := drawn'
  obtain rfl : m₅ = m₄ := clock'
  have hfound : m₅.find? id = some (c.touch w) := by
    rw [show m₅ = _ from hm₃]
    simp [find?, Message.ofUser]
  have hanswered := Prod.ext_iff.mp answered
  rw [append_present (m := .ofAssistant u' w' id content model tokens latency) hfound] at hanswered
  obtain ⟨rfl, -⟩ := hanswered
  change (List.filter _ [Message.ofUser u w id prompt,
    Message.ofAssistant u' w' id content model tokens latency]).map _ = _
  by_cases hid : id = id'
  · simp [hid, Message.turn, Message.ofUser, Message.ofAssistant, Dialogue.turns]
  · simp [hid, Message.ofUser, Message.ofAssistant]

lemma PersistRun.offered {id : ConversationId} {prompt content model tokens latency} {κ : Conduct Memory} {t}
    (h : PersistRun κ id prompt content model tokens latency s t s') : t.filterMap offered? = [] := by
  obtain ⟨drawn, clock, asked, drawn', clock', answered⟩ := h
  rfl

/-- The text of a stream is that of the frames that were handed on. -/
lemma relay_offered {κ : Conduct Memory} {id : ConversationId} {cs : List Chunk} {text text' : String} {t}
    (h : Runs κ (relay (fun f => perform (.offer f)) id cs text) s t (some (.ok text')) s') :
    text' = ((t.filterMap offered?).map (·.delta)).foldl (· ++ ·) text := by
  induction cs generalizing text s t with
  | nil =>
    obtain ⟨rfl, htext, -⟩ := runs_done.mp h
    exact Except.ok.inj (Option.some.inj htext)
  | cons c cs ih =>
    obtain ⟨a, m, t', offer, hrest, rfl⟩ := runs_perform_bind.mp h
    cases a with
    | error e => cases (runs_done.mp hrest).2.1
    | ok u =>
      have htail : Runs κ (relay _ id cs (text ++ c.delta)) m t' _ s' := hrest
      have hrest' := ih htail
      exact hrest'

lemma relayFeed_offered {κ : Conduct Memory} {id : ConversationId} {feed : Feed} {text : String} {t}
    (h : Runs κ (relayFeed (fun f => perform (.offer f)) id feed) s t (some (.ok text)) s') :
    text = offeredText t := by
  rcases runs_bind.mp h with ⟨x, m, t₁, t₂, hrelay, hend, rfl⟩ | ⟨-, hnone⟩
  · cases x with
    | error e => cases (runs_done.mp hend).2.1
    | ok text' =>
      dsimp only at hend
      split at hend
      · obtain ⟨rfl, htext, rfl⟩ := runs_done.mp hend
        obtain rfl := Except.ok.inj (Option.some.inj htext)
        rw [List.append_nil]
        exact relay_offered hrelay
      · cases (runs_done.mp hend).2.1
      · cases (runs_stuck.mp hend).2.1
  · cases hnone

/-! ### What is on record after each kind of run -/

lemma CompleteRun.recorded {o : Orchestrator} {p : Principal} {q : PipelineRequest} {t x} (hs : s.WellFormed)
    (h : CompleteRun works o p q s t x s') (id : ConversationId) :
    ((t.filterMap recorded?).filter (·.conversation = id)).map Message.turn =
      transcript [⟨.complete p q, s, t, some x, s'⟩] id := by
  cases h with
  | refused h =>
    rw [filterMap_eq_nil (fun e => recorded?_eq_none) h.preparing]
    rfl
  | hit ready looked found timed =>
    rw [List.filterMap_append, filterMap_eq_nil (fun e => recorded?_eq_none) ready.preparing]
    rfl
  | failed ready looked missed asked =>
    rw [List.filterMap_append, filterMap_eq_nil (fun e => recorded?_eq_none) ready.preparing]
    rfl
  | answered ready looked missed asked drawn timed kept persisted =>
    have hquiet := filterMap_eq_nil (fun e => recorded?_eq_none) ready.preparing
    obtain ⟨-, -, -, c, hc⟩ := ready.knows hs
    obtain rfl := looked
    obtain rfl := asked
    obtain rfl := drawn
    obtain rfl := timed
    obtain rfl := kept
    rw [List.filterMap_append, hquiet, List.nil_append]
    exact persisted.recorded hc id

/-- Relaying puts nothing on record. -/
lemma relayed_recorded {κ : Conduct Memory} {id : ConversationId} {feed : Feed} {t r}
    (h : Runs κ (relayFeed (fun f => perform (.offer f)) id feed) s t r s') : t.filterMap recorded? = [] := by
  have honly := h.only (K := fun c => ∃ f, c = .offer f) (relayFeed_only (fun f => .perform ⟨f, rfl⟩) id feed)
  refine filterMap_eq_nil (K := fun c => ∃ f, c = .offer f) ?_ honly
  rintro ⟨c, a, m⟩ ⟨f, rfl⟩
  rfl

lemma StreamRun.recorded {o : Orchestrator} {p : Principal} {q : PipelineRequest} {t r} (hs : s.WellFormed)
    (h : StreamRun works o (fun f => perform (.offer f)) p q s t r s') (id : ConversationId) :
    ((t.filterMap recorded?).filter (·.conversation = id)).map Message.turn =
      transcript [⟨.stream p q, s, t, r, s'⟩] id := by
  cases h with
  | refused h =>
    rw [filterMap_eq_nil (fun e => recorded?_eq_none) h.preparing]
    rfl
  | silent ready opened relayed =>
    rw [List.filterMap_append, filterMap_eq_nil (fun e => recorded?_eq_none) ready.preparing]
    simp only [List.filterMap_cons, recorded?, relayed_recorded relayed]
    rfl
  | failed ready opened relayed =>
    rw [List.filterMap_append, filterMap_eq_nil (fun e => recorded?_eq_none) ready.preparing]
    simp only [List.filterMap_cons, recorded?, relayed_recorded relayed]
    rfl
  | @finished t id' ms m feed m₁ t' text m₂ t'' s' ready opened relayed persisted =>
    obtain ⟨-, -, -, c, hc⟩ := ready.knows hs
    obtain rfl : m₁ = m := opened
    obtain rfl : m₂ = m₁ := relayed_unchanged (relayed.mono works.mayFail)
    have hquiet : (t ++ ⟨.openFeed (o.requestFor q ms), feed, m₂⟩ :: (t' ++ t'')).filterMap recorded? =
        t''.filterMap recorded? := by
      simp only [List.filterMap_append, filterMap_eq_nil (fun e => recorded?_eq_none) ready.preparing,
        List.filterMap_cons, recorded?, relayed_recorded relayed, List.nil_append]
    have htext : offeredText (t ++ ⟨.openFeed (o.requestFor q ms), feed, m₂⟩ :: (t' ++ t'')) = text := by
      rw [relayFeed_offered relayed]
      simp only [offeredText, List.filterMap_append, filterMap_eq_nil (fun e => offered?_eq_none) ready.preparing,
        List.filterMap_cons, offered?, persisted.offered, List.nil_append, List.append_nil]
    rw [hquiet, persisted.recorded hc id]
    simp only [transcript, Entry.dialogue?, List.filterMap_cons, List.filterMap_nil, htext]

/-! ### What the backend is asked -/

lemma asked_of_ready {κ : Conduct Memory} {o : Orchestrator} {p : Principal} {q : PipelineRequest} {t u id ms m}
    (ready : ReadyRun κ o p q s t id ms m) {e r} (he : e ∈ t ++ u) (hr : asked? e = some r) : e ∈ u := by
  rcases List.mem_append.mp he with he | he
  · rw [asked?_eq_none (ready.preparing e he)] at hr
    cases hr
  · exact he

lemma PersistRun.asks {σ : Type} {κ : Conduct σ} {s s' : σ} {id : ConversationId} {prompt content model tokens latency t}
    (h : PersistRun κ id prompt content model tokens latency s t s') {e} (he : e ∈ t) : asked? e = none := by
  obtain ⟨drawn, clock, asked, drawn', clock', answered⟩ := h
  simp only [List.mem_cons, List.not_mem_nil, or_false] at he
  rcases he with rfl | rfl | rfl | rfl | rfl | rfl <;> rfl

/-- A whole answer is asked for with what was on record of the conversation when it was resolved. -/
lemma CompleteRun.asks {o : Orchestrator} {p : Principal} {q : PipelineRequest} {t x}
    (h : CompleteRun works o p q s t x s') {e r} (he : e ∈ t) (hr : asked? e = some r) :
    ∃ t₁ u id ms, ReadyRun works o p q s t₁ id ms e.after ∧ t = t₁ ++ u ∧ r = o.requestFor q ms := by
  cases h with
  | refused h =>
    rw [asked?_eq_none (h.preparing e he)] at hr
    cases hr
  | hit ready looked found timed =>
    have he := asked_of_ready ready he hr
    simp only [List.mem_cons, List.not_mem_nil, or_false] at he
    rcases he with rfl | rfl <;> cases hr
  | failed ready looked missed asked =>
    have he := asked_of_ready ready he hr
    obtain rfl := looked
    obtain rfl := asked
    simp only [List.mem_cons, List.not_mem_nil, or_false] at he
    rcases he with rfl | rfl
    · cases hr
    · obtain rfl := Option.some.inj hr
      exact ⟨_, _, _, _, ready, rfl, rfl⟩
  | answered ready looked missed asked drawn timed kept persisted =>
    have he := asked_of_ready ready he hr
    obtain rfl := looked
    obtain rfl := asked
    simp only [List.mem_cons] at he
    rcases he with rfl | rfl | rfl | rfl | rfl | he
    · cases hr
    · obtain rfl := Option.some.inj hr
      exact ⟨_, _, _, _, ready, rfl, rfl⟩
    · cases hr
    · cases hr
    · cases hr
    · rw [persisted.asks he] at hr
      cases hr

lemma relayed_asks {κ : Conduct Memory} {id : ConversationId} {feed : Feed} {t r}
    (h : Runs κ (relayFeed (fun f => perform (.offer f)) id feed) s t r s') {e} (he : e ∈ t) : asked? e = none := by
  have honly := h.only (K := fun c => ∃ f, c = .offer f) (relayFeed_only (fun f => .perform ⟨f, rfl⟩) id feed)
  obtain ⟨c, a, m⟩ := e
  obtain ⟨f, rfl⟩ := honly _ he
  rfl

lemma StreamRun.asks {o : Orchestrator} {p : Principal} {q : PipelineRequest} {t x}
    (h : StreamRun works o (fun f => perform (.offer f)) p q s t x s') {e r} (he : e ∈ t) (hr : asked? e = some r) :
    ∃ t₁ u id ms, ReadyRun works o p q s t₁ id ms e.after ∧ t = t₁ ++ u ∧ r = o.requestFor q ms := by
  cases h with
  | refused h =>
    rw [asked?_eq_none (h.preparing e he)] at hr
    cases hr
  | silent ready opened relayed =>
    have he := asked_of_ready ready he hr
    obtain rfl := opened
    rcases List.mem_cons.mp he with rfl | he
    · obtain rfl := Option.some.inj hr
      exact ⟨_, _, _, _, ready, rfl, rfl⟩
    · rw [relayed_asks relayed he] at hr
      cases hr
  | failed ready opened relayed =>
    have he := asked_of_ready ready he hr
    obtain rfl := opened
    rcases List.mem_cons.mp he with rfl | he
    · obtain rfl := Option.some.inj hr
      exact ⟨_, _, _, _, ready, rfl, rfl⟩
    · rw [relayed_asks relayed he] at hr
      cases hr
  | finished ready opened relayed persisted =>
    have he := asked_of_ready ready he hr
    obtain rfl := opened
    rcases List.mem_cons.mp he with rfl | he
    · obtain rfl := Option.some.inj hr
      exact ⟨_, _, _, _, ready, rfl, rfl⟩
    · rcases List.mem_append.mp he with he | he
      · rw [relayed_asks relayed he] at hr
        cases hr
      · rw [persisted.asks he] at hr
        cases hr

lemma ReadyRun.resolvedTo {σ : Type} {κ : Conduct σ} {o : Orchestrator} {e : Entry σ} {p : Principal}
    {q : PipelineRequest} {t u id ms m} (ready : ReadyRun κ o p q e.before t id ms m)
    (hop : e.op.request? = some (p, q)) (ht : e.trace = t ++ u) : e.ResolvedTo κ id := by
  obtain ⟨valid, resolved, read⟩ := ready
  exact ⟨p, q, _, _, _, hop, by rw [ht, List.append_assoc], resolved⟩

/-- With a system prompt and no other system turn, the turns are the prompt, the last ones on record and the new one. -/
lemma requestFor_turns {o : Orchestrator} {system : String} (ho : o.injector = .systemPrompt system)
    (q : PipelineRequest) {ms : List Message} {ts : List Turn} (hms : ms.map Message.turn = ts)
    (hts : ∀ t ∈ ts, t.role ≠ .system) :
    (o.requestFor q ms).turns =
      ⟨.system, system⟩ :: ts.rtake (min o.historyLimit ts.length) ++ [⟨.user, q.prompt⟩] := by
  have hlength : ms.length = ts.length := by rw [← hms, List.length_map]
  have htake : (ms.drop (ms.length - o.historyLimit)).map Message.turn = ts.rtake (min o.historyLimit ts.length) := by
    rw [List.map_drop, hms, hlength, List.rtake]
    congr 1
    omega
  have hrole : ∀ t ∈ ts.rtake (min o.historyLimit ts.length) ++ [⟨.user, q.prompt⟩], t.role ≠ .system := by
    intro t ht
    rcases List.mem_append.mp ht with ht | ht
    · exact hts t (List.mem_of_mem_drop ht)
    · rw [List.mem_singleton.mp ht]
      exact fun h => nomatch h
  simp only [requestFor, Context.historyOf, htake, ho, Injector.systemPrompt]
  split
  · rename_i heq
    rw [heq] at hrole
    exact absurd rfl (hrole _ List.mem_cons_self)
  · rfl

/-- A store that works tells an owner what is on record. -/
lemma returns_listMessages_works {p : Principal} {id : ConversationId} (hp : s.owner? id = some p) {r} :
    Returns works (listMessages p id) s r ↔ r = .ok (s.messagesOf id) := by
  obtain ⟨c, hc, hcp⟩ := owner?_eq_some.mp hp
  have hfinds : works (.findConversation id) s (.ok (some c)) s := ⟨by rw [hc], rfl⟩
  constructor
  · rintro ⟨t, s', h⟩
    obtain ⟨x, hx, h⟩ := runs_listMessages.mp h
    obtain rfl := Option.some.inj hx
    cases h with
    | unread read => cases read.1
    | absent read =>
      have hfound := Except.ok.inj read.1
      rw [hc] at hfound
      cases hfound
    | forbidden read foreign =>
      have hfound := Except.ok.inj read.1
      rw [hc] at hfound
      obtain rfl := Option.some.inj hfound
      rw [isOwnedBy_iff.mpr hcp] at foreign
      cases foreign
    | told read owned told =>
      obtain ⟨-, rfl⟩ := read
      rw [told.1]
      rfl
  · rintro rfl
    exact ⟨_, s, runs_listMessages.mpr ⟨_, rfl, .told hfinds (isOwnedBy_iff.mpr hcp)
      (show works (.listMessages id) s (.ok (s.messagesOf id)) s from ⟨rfl, rfl⟩)⟩⟩

end Orchestrator

/-! ### Whole histories -/

lemma role_ne_system {σ : Type} {es : List (Entry σ)} {id : ConversationId} {t : Turn} (h : t ∈ transcript es id) :
    t.role ≠ .system := by
  obtain ⟨x, -, ht⟩ := List.mem_flatMap.mp h
  simp only [Dialogue.turns, List.mem_cons, List.not_mem_nil, or_false] at ht
  rcases ht with rfl | rfl <;> exact fun h => nomatch h

/-- A run puts on record what was said in it. -/
lemma Entry.Ran.recorded {o : Orchestrator} {e : Entry Memory} (hs : e.before.WellFormed) (h : e.Ran works o)
    (id : ConversationId) :
    (e.recorded.filter (·.conversation = id)).map Message.turn = transcript [e] id := by
  obtain ⟨op, s, t, r, s'⟩ := e
  cases op with
  | complete p q =>
    obtain ⟨x, rfl, hrun⟩ := Orchestrator.runs_complete h
    exact hrun.recorded hs id
  | stream p q => exact (Orchestrator.runs_stream h).recorded hs id
  | listMessages p id' =>
    have hquiet := filterMap_eq_nil unwritten_unrecorded (h.only (Orchestrator.listMessages_only p id'))
    rw [Entry.recorded, hquiet]
    rfl
  | listConversations p =>
    have hquiet := filterMap_eq_nil unwritten_unrecorded (h.only (Orchestrator.listConversations_only p))
    rw [Entry.recorded, hquiet]
    rfl

/-- What was said was said in the conversation that the run found or began. -/
lemma Entry.Ran.resolved {κ : Conduct Memory} {o : Orchestrator} {e : Entry Memory} (h : e.Ran κ o) {x : Dialogue}
    (hx : e.dialogue? = some x) : e.ResolvedTo κ x.conversation := by
  obtain ⟨op, s, t, r, s'⟩ := e
  cases op with
  | complete p q =>
    obtain ⟨x, rfl, hrun⟩ := Orchestrator.runs_complete h
    replace hrun : Orchestrator.CompleteRun κ o p q s t x s' := hrun
    cases hrun with
    | refused h => cases hx
    | hit ready looked found timed => cases hx
    | failed ready looked missed asked => cases hx
    | answered ready looked missed asked drawn timed kept persisted =>
      obtain rfl := Option.some.inj hx
      exact ready.resolvedTo rfl rfl
  | stream p q =>
    have hrun : Orchestrator.StreamRun κ o _ p q s t r s' := Orchestrator.runs_stream h
    cases hrun with
    | refused h => cases hx
    | silent ready opened relayed => cases hx
    | failed ready opened relayed => cases hx
    | finished ready opened relayed persisted =>
      obtain rfl := Option.some.inj hx
      exact ready.resolvedTo rfl rfl
  | listMessages p id => cases hx
  | listConversations p => cases hx

/-- The backend is asked with what was on record of the conversation when it was resolved. -/
lemma Entry.Ran.asks {o : Orchestrator} {e : Entry Memory} (h : e.Ran works o) {c r} (hc : c ∈ e.trace)
    (hr : asked? c = some r) : ∃ p q t u id ms, e.op.request? = some (p, q) ∧
      Orchestrator.ReadyRun works o p q e.before t id ms c.after ∧ e.trace = t ++ u ∧ r = o.requestFor q ms := by
  obtain ⟨op, s, t, r', s'⟩ := e
  cases op with
  | complete p q =>
    obtain ⟨x, rfl, hrun⟩ := Orchestrator.runs_complete h
    obtain ⟨t₁, u, id, ms, ready, ht, hr⟩ := hrun.asks hc hr
    exact ⟨p, q, t₁, u, id, ms, rfl, ready, ht, hr⟩
  | stream p q =>
    obtain ⟨t₁, u, id, ms, ready, ht, hr⟩ := (Orchestrator.runs_stream h).asks hc hr
    exact ⟨p, q, t₁, u, id, ms, rfl, ready, ht, hr⟩
  | listMessages p id =>
    obtain ⟨x, -, hrun⟩ := Orchestrator.runs_listMessages.mp h
    replace hrun : Orchestrator.ListRun works p id s t x s' := hrun
    cases hrun <;> simp only [List.mem_cons, List.not_mem_nil, or_false] at hc
    case told => rcases hc with rfl | rfl <;> cases hr
    all_goals
      subst hc
      cases hr
  | listConversations p =>
    obtain ⟨x, -, -, ht⟩ := Orchestrator.runs_listConversations.mp h
    replace ht : t = _ := ht
    rw [ht, List.mem_singleton] at hc
    subst hc
    cases hr

/-- Record and requests tell the same of every conversation. -/
structure Transcribed (o : Orchestrator) (system : String) (es : List (Entry Memory)) (s : Memory) : Prop where
  /-- The messages of a conversation are what was said in the runs that ended well in it. -/
  record : ∀ id, (s.messagesOf id).map Message.turn = transcript es id
  /-- They are what the owner is told. -/
  told : ∀ p id, s.owner? id = some p →
    ∀ r, Returns works (Orchestrator.listMessages p id) s r ↔ r = .ok (s.messagesOf id)
  /-- A run that ended well did so in the conversation that it had found or begun. -/
  resolved : ∀ e ∈ es, ∀ x, e.dialogue? = some x → e.ResolvedTo works x.conversation
  /-- A run that asks the backend has found or begun a conversation, and asks with the system prompt, the latest turns
  on record of the conversation, and the new prompt. -/
  asked : ∀ pre e post, es = pre ++ e :: post → ∀ c ∈ e.trace, ∀ r, asked? c = some r →
    (∃ id, e.ResolvedTo works id) ∧ ∀ p q id, e.op.request? = some (p, q) → e.ResolvedTo works id →
      (c.after.messagesOf id).map Message.turn = transcript pre id ∧
      r.turns = ⟨.system, system⟩ :: (transcript pre id).rtake (min o.historyLimit (transcript pre id).length) ++
        [⟨.user, q.prompt⟩]

lemma History.record {o : Orchestrator} {es : List (Entry Memory)} {s : Memory} (h : History works o .empty es s)
    (id : ConversationId) : (s.messagesOf id).map Message.turn = transcript es id := by
  induction h with
  | nil => rfl
  | snoc e earlier ran ih =>
    have hs : e.before.WellFormed := (earlier.mono works.mayFail).wellFormed wellFormed_empty
    have hmessages : e.after.messages = e.before.messages ++ e.recorded := runs_messages (ran.mono works.mayFail)
    rw [transcript_append, ← ih, ← ran.recorded hs id, messagesOf, messagesOf, hmessages, List.filter_append,
      List.map_append]

/-- In every history of a store that begins empty and works, record and requests tell the same. -/
theorem History.transcribed {o : Orchestrator} {system : String} (ho : o.injector = .systemPrompt system)
    {es : List (Entry Memory)} {s : Memory} (h : History works o .empty es s) : Transcribed o system es s where
  record := h.record
  told p id hp r := Orchestrator.returns_listMessages_works hp
  resolved e he x hx := (h.ran he).resolved hx
  asked := by
    intro pre e post hes c hc r hr
    subst hes
    obtain ⟨hpre, ran, -⟩ := h.split
    have hs : e.before.WellFormed := (hpre.mono works.mayFail).wellFormed wellFormed_empty
    obtain ⟨p, q, t, u, id, ms, hop, ready, ht, rfl⟩ := ran.asks hc hr
    have hresolved := ready.resolvedTo hop ht
    refine ⟨⟨id, hresolved⟩, ?_⟩
    intro p' q' id' hop' hresolved'
    obtain ⟨rfl, rfl⟩ := Prod.ext_iff.mp (Option.some.inj (hop.symm.trans hop'))
    obtain rfl := hresolved.unique hresolved'
    obtain ⟨hmessages, rfl, -, -⟩ := ready.knows hs
    have hrecord := hpre.record id
    refine ⟨by rw [messagesOf, hmessages]; exact hrecord, ?_⟩
    exact Orchestrator.requestFor_turns ho q hrecord fun t ht => role_ne_system ht

/-! A history of two turns: a stream begins a conversation, and a whole answer goes on in it. -/

def patient : Orchestrator := ⟨.systemPrompt "Be brief.", 1, 100, ⟨"m", default, 0⟩, 0⟩

def firstTurn : Entry Memory :=
  .under (steady ⟨"", "", "", none, none⟩ ⟨[⟨"1", "Hi", none, none⟩, ⟨"1", "!", none, none⟩], .finished⟩) patient
    (.stream ⟨"alice"⟩ ⟨"Hello", none, true, none, none, none⟩) .empty

def secondTurn : Entry Memory :=
  .under (steady ⟨"", "Fine.", "m", none, none⟩ ⟨[], .finished⟩) patient
    (.complete ⟨"alice"⟩ ⟨"How are you?", some ⟨⟨0⟩⟩, false, none, none, none⟩) firstTurn.after

lemma twoTurns_history : History works patient .empty [firstTurn, secondTurn] secondTurn.after :=
  History.under (steady_works _ _) (History.under (steady_works _ _) .nil _) _

theorem History.transcribed_twoTurns :
    patient.injector = .systemPrompt "Be brief." ∧
    History works patient .empty [firstTurn, secondTurn] secondTurn.after ∧
    Transcribed patient "Be brief." [firstTurn, secondTurn] secondTurn.after ∧
    transcript [firstTurn, secondTurn] ⟨⟨0⟩⟩ =
      [⟨.user, "Hello"⟩, ⟨.assistant, "Hi!"⟩, ⟨.user, "How are you?"⟩, ⟨.assistant, "Fine."⟩] ∧
    (secondTurn.trace.filterMap asked?).map (·.turns) =
      [[⟨.system, "Be brief."⟩, ⟨.assistant, "Hi!"⟩, ⟨.user, "How are you?"⟩]] :=
  ⟨rfl, twoTurns_history, twoTurns_history.transcribed rfl, rfl, rfl⟩

end CompletionGateway
