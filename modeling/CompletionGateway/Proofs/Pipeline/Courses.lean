import CompletionGateway.Proofs.Pipeline.Preparation

/-! The courses that whole answers and streamed ones can take, call by call, whatever the collaborators do. -/
namespace CompletionGateway.Orchestrator
open Program
variable {σ : Type} {κ : Conduct σ}

/-! ### Keeping the exchange -/

/-- A run that puts prompt and answer on record, each of which may be refused. -/
inductive PersistRun (κ : Conduct σ) (id : ConversationId) (prompt content model : String) (tokens : UInt32)
    (latency : Numeric.Binary) (s : σ) : List (Event σ) → σ → Prop
  | mk {u m₁ t m₂ x m₃ u' m₄ t' m₅ x' s'} (drawn : κ .freshUuid s u m₁) (clock : κ .wallClock m₁ t m₂)
      (asked : κ (.appendMessage (.ofUser u t id prompt)) m₂ x m₃) (drawn' : κ .freshUuid m₃ u' m₄)
      (clock' : κ .wallClock m₄ t' m₅)
      (answered : κ (.appendMessage (.ofAssistant u' t' id content model tokens latency)) m₅ x' s') :
      PersistRun κ id prompt content model tokens latency s
        [⟨.freshUuid, u, m₁⟩, ⟨.wallClock, t, m₂⟩, ⟨.appendMessage (.ofUser u t id prompt), x, m₃⟩,
          ⟨.freshUuid, u', m₄⟩, ⟨.wallClock, t', m₅⟩,
          ⟨.appendMessage (.ofAssistant u' t' id content model tokens latency), x', s'⟩] s'

lemma runs_persist {id : ConversationId} {prompt content model : String} {tokens : UInt32} {latency : Numeric.Binary}
    {s t r s'} (h : Runs κ (persist id prompt content model tokens latency) s t r s') :
    r = some () ∧ PersistRun κ id prompt content model tokens latency s t s' := by
  obtain ⟨u, m₁, t₁, drawn, h₁, rfl⟩ := runs_perform_bind.mp h
  obtain ⟨w, m₂, t₂, clock, h₂, rfl⟩ := runs_perform_bind.mp h₁
  obtain ⟨x, m₃, t₃, asked, h₃, rfl⟩ := runs_perform_bind.mp h₂
  obtain ⟨u', m₄, t₄, drawn', h₄, rfl⟩ := runs_perform_bind.mp h₃
  obtain ⟨w', m₅, t₅, clock', h₅, rfl⟩ := runs_perform_bind.mp h₄
  obtain ⟨x', m₆, t₆, answered, h₆, rfl⟩ := runs_perform_bind.mp h₅
  obtain ⟨rfl, rfl, rfl⟩ := runs_done.mp h₆
  exact ⟨rfl, .mk drawn clock asked drawn' clock' answered⟩

/-- The calls that put an exchange on record. -/
def Recording : Call → Prop
  | .appendMessage _ => True
  | .freshUuid => True
  | .wallClock => True
  | _ => False

lemma persist_only (id : ConversationId) (prompt content model : String) (tokens : UInt32) (latency : Numeric.Binary) :
    (persist id prompt content model tokens latency).Only Recording := by
  refine Only.bind (.perform trivial) fun u => Only.bind (.perform trivial) fun t => Only.bind (.perform trivial) fun x =>
    Only.bind (.perform trivial) fun u => Only.bind (.perform trivial) fun t => Only.bind (.perform trivial) fun x => ?_
  trivial

/-! ### Whole answers -/

/-- The answer that a read of the cache has found. -/
def foundAnswer : Except CacheError (Option (List UInt8)) → Option InferenceResponse
  | .ok (some bytes) => Json.decodeBytes InferenceResponse.ofTree? bytes
  | .ok none => none
  | .error _ => none

/-- The key of a request in the cache. -/
def cacheKey (o : Orchestrator) (p : Principal) (q : PipelineRequest) : String := (o.inquiry p q).fingerprint.key

/-- What is sent for a prompt behind the messages on record. -/
def requestFor (o : Orchestrator) (q : PipelineRequest) (ms : List Message) : CompletionRequest :=
  ⟨o.injector.inject (Context.historyOf o.historyLimit ms q.prompt), o.params q⟩

/-- The answer as its caller gets it. -/
def responseOf (u : Uuid) (id : ConversationId) (c : CompletionResponse) (latency : Numeric.Binary) :
    InferenceResponse := ⟨u, id, c.content, c.model, some c.totalTokens, latency, false⟩

inductive CompleteRun (κ : Conduct σ) (o : Orchestrator) (p : Principal) (q : PipelineRequest) (s : σ) :
    List (Event σ) → Except PipelineError InferenceResponse → σ → Prop
  | refused {t e s'} (h : RefusedRun κ o p q s t e s') : CompleteRun κ o p q s t (.error e) s'
  | hit {t id ms m a m₁ r l s'} (ready : ReadyRun κ o p q s t id ms m) (looked : κ (.readCache (o.cacheKey p q)) m a m₁)
      (found : foundAnswer a = some r) (timed : κ .elapsed m₁ l s') :
      CompleteRun κ o p q s (t ++ [⟨.readCache (o.cacheKey p q), a, m₁⟩, ⟨.elapsed, l, s'⟩])
        (.ok ⟨r.id, id, r.content, r.model, r.tokenCount, l, true⟩) s'
  | failed {t id ms m a m₁ e s'} (ready : ReadyRun κ o p q s t id ms m)
      (looked : κ (.readCache (o.cacheKey p q)) m a m₁) (missed : foundAnswer a = none)
      (asked : κ (.complete (o.requestFor q ms)) m₁ (.error e) s') :
      CompleteRun κ o p q s (t ++ [⟨.readCache (o.cacheKey p q), a, m₁⟩, ⟨.complete (o.requestFor q ms), .error e, s'⟩])
        (.error (.backend e)) s'
  | answered {t id ms m a m₁ c m₂ u m₃ l m₄ w m₅ t' s'} (ready : ReadyRun κ o p q s t id ms m)
      (looked : κ (.readCache (o.cacheKey p q)) m a m₁) (missed : foundAnswer a = none)
      (asked : κ (.complete (o.requestFor q ms)) m₁ (.ok c) m₂) (drawn : κ .freshUuid m₂ u m₃)
      (timed : κ .elapsed m₃ l m₄)
      (kept : κ (.writeCache (o.cacheKey p q) (Text.utf8 (responseOf u id c l).toJson.text) o.cacheTtl) m₄ w m₅)
      (persisted : PersistRun κ id q.prompt c.content c.model c.totalTokens l m₅ t' s') :
      CompleteRun κ o p q s
        (t ++ ⟨.readCache (o.cacheKey p q), a, m₁⟩ :: ⟨.complete (o.requestFor q ms), .ok c, m₂⟩ ::
          ⟨.freshUuid, u, m₃⟩ :: ⟨.elapsed, l, m₄⟩ ::
          ⟨.writeCache (o.cacheKey p q) (Text.utf8 (responseOf u id c l).toJson.text) o.cacheTtl, w, m₅⟩ :: t')
        (.ok (responseOf u id c l)) s'

lemma runs_lookup {f : Cache.Fingerprint} {s t r s'}
    (h : Runs κ (Cache.lookup (Json.decodeBytes InferenceResponse.ofTree?) f) s t r s') :
    ∃ a, κ (.readCache f.key) s a s' ∧ t = [⟨.readCache f.key, a, s'⟩] ∧ r = some (foundAnswer a) := by
  obtain ⟨a, m, t', looked, h', rfl⟩ := runs_perform_bind.mp h
  match a with
  | .ok (some bytes) => obtain ⟨rfl, rfl, rfl⟩ := runs_done.mp h'; exact ⟨_, looked, rfl, rfl⟩
  | .ok none => obtain ⟨rfl, rfl, rfl⟩ := runs_done.mp h'; exact ⟨_, looked, rfl, rfl⟩
  | .error e => obtain ⟨rfl, rfl, rfl⟩ := runs_done.mp h'; exact ⟨_, looked, rfl, rfl⟩

lemma runs_conclude {o : Orchestrator} {f : Cache.Fingerprint} {id : ConversationId} {prompt : String}
    {c : CompletionResponse} {s t r s'} (h : Runs κ (o.conclude f id prompt c) s t r s') :
    ∃ u m₁ l m₂ w m₃ t', κ .freshUuid s u m₁ ∧ κ .elapsed m₁ l m₂ ∧
      κ (.writeCache f.key (Text.utf8 (responseOf u id c l).toJson.text) o.cacheTtl) m₂ w m₃ ∧
      PersistRun κ id prompt c.content c.model c.totalTokens l m₃ t' s' ∧
      t = ⟨.freshUuid, u, m₁⟩ :: ⟨.elapsed, l, m₂⟩ ::
        ⟨.writeCache f.key (Text.utf8 (responseOf u id c l).toJson.text) o.cacheTtl, w, m₃⟩ :: t' ∧
      r = some (.ok (responseOf u id c l)) := by
  obtain ⟨u, m₁, t₁, drawn, h₁, rfl⟩ := runs_perform_bind.mp h
  obtain ⟨l, m₂, t₂, timed, h₂, rfl⟩ := runs_perform_bind.mp h₁
  rcases runs_bind.mp h₂ with ⟨x, m₃, t₃, t₄, hs, h₃, rfl⟩ | ⟨hs, -⟩
  · obtain ⟨w, m₄, t₅, kept, h₄, rfl⟩ := runs_perform_bind.mp hs
    obtain ⟨rfl, -, rfl⟩ := runs_done.mp h₄
    rcases runs_bind.mp h₃ with ⟨y, m₅, t₆, t₇, hp, h₅, rfl⟩ | ⟨hp, -⟩
    · obtain ⟨rfl, rfl, rfl⟩ := runs_done.mp h₅
      obtain ⟨-, persisted⟩ := runs_persist hp
      exact ⟨u, m₁, l, m₂, w, m₃, t₆, drawn, timed, kept, persisted, by simp [responseOf], rfl⟩
    · cases (runs_persist hp).1
  · obtain ⟨w, m₄, t₅, kept, h₄, rfl⟩ := runs_perform_bind.mp hs
    cases (runs_done.mp h₄).2.1

theorem runs_complete {o : Orchestrator} {p : Principal} {q : PipelineRequest} {s t r s'}
    (h : Runs κ (o.complete p q) s t r s') : ∃ x, r = some x ∧ CompleteRun κ o p q s t x s' := by
  rcases runs_prepared runs_history h with ⟨e, refused, rfl⟩ | ⟨id, ms, t₁, t₂, m, ready, h₁, rfl⟩
  · exact ⟨_, rfl, .refused refused⟩
  rcases runs_bind.mp h₁ with ⟨found, m₁, t₃, t₄, hl, h₂, rfl⟩ | ⟨hl, -⟩
  · obtain ⟨a, looked, rfl, ha⟩ := runs_lookup hl
    replace ha := Option.some.inj ha
    cases found with
    | some hit =>
      obtain ⟨l, m₂, t₅, timed, h₃, rfl⟩ := runs_perform_bind.mp h₂
      obtain ⟨rfl, rfl, rfl⟩ := runs_done.mp h₃
      exact ⟨_, rfl, .hit ready looked ha.symm timed⟩
    | none =>
      obtain ⟨x, m₂, t₅, asked, h₃, rfl⟩ := runs_perform_bind.mp h₂
      cases x with
      | error e =>
        obtain ⟨rfl, rfl, rfl⟩ := runs_done.mp h₃
        exact ⟨_, rfl, .failed ready looked ha.symm asked⟩
      | ok c =>
        obtain ⟨u, m₃, l, m₄, w, m₅, t', drawn, timed, kept, persisted, rfl, rfl⟩ := runs_conclude h₃
        exact ⟨_, rfl, .answered ready looked ha.symm asked drawn timed kept persisted⟩
  · obtain ⟨a, -, -, ha⟩ := runs_lookup hl
    cases ha

/-! ### Streamed answers -/

lemma relay_only {K : Call → Prop} {sink : FrameSink} (hsink : ∀ f, (sink f).Only K) (id : ConversationId)
    (cs : List Chunk) (text : String) : (relay sink id cs text).Only K := by
  induction cs generalizing text with
  | nil => trivial
  | cons c cs ih =>
    refine (hsink _).bind ?_
    rintro (e | u)
    · trivial
    · exact ih _

/-- Relaying makes no calls but those of the consumer. -/
lemma relayFeed_only {K : Call → Prop} {sink : FrameSink} (hsink : ∀ f, (sink f).Only K) (id : ConversationId)
    (feed : Feed) : (relayFeed sink id feed).Only K := by
  refine (relay_only hsink id feed.chunks "").bind ?_
  rintro (e | text)
  · trivial
  · dsimp only
    split <;> trivial

inductive StreamRun (κ : Conduct σ) (o : Orchestrator) (sink : FrameSink) (p : Principal) (q : PipelineRequest)
    (s : σ) : List (Event σ) → Option (Except PipelineError ConversationId) → σ → Prop
  | refused {t e s'} (h : RefusedRun κ o p q s t e s') : StreamRun κ o sink p q s t (some (.error e)) s'
  | silent {t id ms m feed m₁ t' s'} (ready : ReadyRun κ o p q s t id ms m)
      (opened : κ (.openFeed (o.requestFor q ms)) m feed m₁)
      (relayed : Runs κ (relayFeed sink id feed) m₁ t' none s') :
      StreamRun κ o sink p q s (t ++ ⟨.openFeed (o.requestFor q ms), feed, m₁⟩ :: t') none s'
  | failed {t id ms m feed m₁ t' e s'} (ready : ReadyRun κ o p q s t id ms m)
      (opened : κ (.openFeed (o.requestFor q ms)) m feed m₁)
      (relayed : Runs κ (relayFeed sink id feed) m₁ t' (some (.error e)) s') :
      StreamRun κ o sink p q s (t ++ ⟨.openFeed (o.requestFor q ms), feed, m₁⟩ :: t')
        (some (.error (streamFailure e))) s'
  | finished {t id ms m feed m₁ t' text m₂ t'' s'} (ready : ReadyRun κ o p q s t id ms m)
      (opened : κ (.openFeed (o.requestFor q ms)) m feed m₁)
      (relayed : Runs κ (relayFeed sink id feed) m₁ t' (some (.ok text)) m₂)
      (persisted : PersistRun κ id q.prompt text o.defaults.model 0 default m₂ t'' s') :
      StreamRun κ o sink p q s (t ++ ⟨.openFeed (o.requestFor q ms), feed, m₁⟩ :: (t' ++ t'')) (some (.ok id)) s'

theorem runs_stream {o : Orchestrator} {sink : FrameSink} {p : Principal} {q : PipelineRequest} {s t r s'}
    (h : Runs κ (o.stream sink p q) s t r s') : StreamRun κ o sink p q s t r s' := by
  rcases runs_prepared runs_build h with ⟨e, refused, rfl⟩ | ⟨id, ms, t₁, t₂, m, ready, h₁, rfl⟩
  · exact .refused refused
  obtain ⟨feed, m₁, t₃, opened, h₂, rfl⟩ := runs_perform_bind.mp h₁
  rcases runs_bind.mp h₂ with ⟨x, m₂, t₄, t₅, relayed, h₃, rfl⟩ | ⟨relayed, rfl⟩
  · cases x with
    | error e =>
      obtain ⟨rfl, rfl, rfl⟩ := runs_done.mp h₃
      rw [List.append_nil]
      exact .failed ready opened relayed
    | ok text =>
      rcases runs_bind.mp h₃ with ⟨y, m₃, t₆, t₇, hp, h₄, rfl⟩ | ⟨hp, -⟩
      · obtain ⟨rfl, rfl, rfl⟩ := runs_done.mp h₄
        obtain ⟨-, persisted⟩ := runs_persist hp
        rw [List.append_nil]
        exact .finished ready opened relayed persisted
      · cases (runs_persist hp).1
  · exact .silent ready opened relayed

/-! ### Listings -/

/-- A run that lists the messages of a conversation, after a look at whose it is. -/
inductive ListRun (κ : Conduct σ) (p : Principal) (id : ConversationId) (s : σ) :
    List (Event σ) → Except PipelineError (List Message) → σ → Prop
  | unread {e s'} (read : κ (.findConversation id) s (.error e) s') :
      ListRun κ p id s [⟨.findConversation id, .error e, s'⟩] (.error (.store e)) s'
  | absent {s'} (read : κ (.findConversation id) s (.ok none) s') :
      ListRun κ p id s [⟨.findConversation id, .ok none, s'⟩] (.error (.conversationNotFound id.text)) s'
  | forbidden {c s'} (read : κ (.findConversation id) s (.ok (some c)) s') (foreign : c.isOwnedBy p = false) :
      ListRun κ p id s [⟨.findConversation id, .ok (some c), s'⟩] (.error (.conversationForbidden id.text)) s'
  | told {c m x s'} (read : κ (.findConversation id) s (.ok (some c)) m) (owned : c.isOwnedBy p = true)
      (told : κ (.listMessages id) m x s') :
      ListRun κ p id s [⟨.findConversation id, .ok (some c), m⟩, ⟨.listMessages id, x, s'⟩] (x.mapError .store) s'

lemma runs_listMessages {p : Principal} {id : ConversationId} {s t r s'} :
    Runs κ (listMessages p id) s t r s' ↔ ∃ x, r = some x ∧ ListRun κ p id s t x s' := by
  constructor
  · intro h
    rcases Attempt.runs_andThen.mp h with ⟨found, m, t₁, t₂, hf, hc, rfl⟩ | ⟨e, hf, rfl⟩ | ⟨hf, -⟩
    · obtain ⟨x, read, rfl, hx⟩ := runs_find hf
      cases x with
      | error e => cases hx
      | ok x =>
        cases hx
        cases found with
        | none =>
          obtain ⟨rfl, rfl, rfl⟩ := runs_done.mp hc
          exact ⟨_, rfl, .absent read⟩
        | some c =>
          dsimp only at hc
          split at hc
          · rename_i owned
            rcases Attempt.runs_ofStore.mp hc with ⟨x, hx, rfl⟩ | ⟨hx, -⟩
            · obtain ⟨y, told, hy, rfl⟩ := runs_perform.mp hx
              cases hy
              exact ⟨_, rfl, .told read owned told⟩
            · obtain ⟨y, -, hy, -⟩ := runs_perform.mp hx
              cases hy
          · rename_i foreign
            obtain ⟨rfl, rfl, rfl⟩ := runs_done.mp hc
            exact ⟨_, rfl, .forbidden read (by simpa using foreign)⟩
    · obtain ⟨x, read, rfl, hx⟩ := runs_find hf
      cases x with
      | error e => cases hx; exact ⟨_, rfl, .unread read⟩
      | ok x => cases hx
    · obtain ⟨x, -, -, hx⟩ := runs_find hf
      cases hx
  · rintro ⟨x, rfl, h⟩
    cases h with
    | unread read => exact .call read (.done _ _)
    | absent read => exact .call read (.done _ _)
    | forbidden read foreign =>
      refine .call read ?_
      simp only [Program.bind, foreign, Bool.false_eq_true, if_false]
      exact .done _ _
    | told read owned told =>
      refine .call read ?_
      simp only [Program.bind, owned, if_true]
      refine .call told ?_
      rename_i x
      cases x <;> exact .done _ _

lemma runs_listConversations {p : Principal} {s t r s'} :
    Runs κ (listConversations p) s t r s' ↔ ∃ x, r = some (x.mapError .store) ∧
      κ (.listConversations p listLimit) s x s' ∧ t = [⟨.listConversations p listLimit, x, s'⟩] := by
  rw [listConversations, Attempt.runs_ofStore]
  constructor
  · rintro (⟨x, hx, rfl⟩ | ⟨hx, -⟩)
    · obtain ⟨y, told, hy, rfl⟩ := runs_perform.mp hx
      cases hy
      exact ⟨x, rfl, told, rfl⟩
    · obtain ⟨y, -, hy, -⟩ := runs_perform.mp hx
      cases hy
  · rintro ⟨x, rfl, told, rfl⟩
    exact .inl ⟨x, runs_perform.mpr ⟨x, told, rfl, rfl⟩, rfl⟩

end CompletionGateway.Orchestrator
