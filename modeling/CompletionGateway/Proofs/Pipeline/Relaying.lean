import CompletionGateway.Proofs.Completion.SinkContract
import CompletionGateway.Proofs.Gateway.StreamFidelity
import CompletionGateway.Proofs.Pipeline.Transcript
import CompletionGateway.Proofs.Program.Handing

/-! Relaying a stream to a consumer who may refuse a frame. The consumer is offered one frame for each chunk in the order of
the chunks, and none behind a refusal. The run ends as its first failure says, and only a run without one puts prompt and
answer on record. -/
namespace CompletionGateway
open Program Gateway

/-- The calls by which a consumer takes what it is handed. -/
def Consuming : Call → Prop
  | .offer _ => True
  | .emit _ => True
  | _ => False

namespace Orchestrator
variable {σ : Type} {κ : Conduct σ} {o : Orchestrator} {sink : FrameSink} {p : Principal} {q : PipelineRequest}
  {id : ConversationId} {feed : Feed} {s s' : σ}

/-! ### Handing on a feed -/

/-- Relaying hands on the frames and keeps the text of all chunks. -/
lemma relay_eq (sink : FrameSink) (id : ConversationId) (cs : List Chunk) (text : String) :
    relay sink id cs text = (handAll (fun c => sink (c.frame id)) cs).bind fun
      | .ok () => .done (.ok ((cs.map (·.delta)).foldl (· ++ ·) text))
      | .error e => .done (.error e) := by
  induction cs generalizing text with
  | nil => rfl
  | cons c cs ih =>
    rw [relay, handAll, bind_assoc]
    refine bind_eq_bind _ ?_
    rintro (e | u)
    · rfl
    · exact ih (text ++ c.delta)

/-- Relaying a feed is delivering it to a consumer of frames. -/
lemma relayFeed_eq (sink : FrameSink) (id : ConversationId) (feed : Feed) :
    relayFeed sink id feed = (feed.deliver fun c => sink (c.frame id)).bind fun x =>
      .done (x.map fun _ => String.join (feed.chunks.map (·.delta))) := by
  rw [relayFeed, relay_eq, Feed.deliver, bind_assoc, bind_assoc]
  refine bind_eq_bind _ ?_
  rintro (e | u)
  · rfl
  · obtain ⟨chunks, ending⟩ := feed
    cases ending <;> rfl

/-- Relaying the feed of an exchange is what a client does while it reads. -/
theorem relayFeed_client (sink : FrameSink) (id : ConversationId) (c : Client) (x : Exchange) :
    relayFeed sink id (c.feed x) = (c.stream (fun chunk => sink (chunk.frame id)) x).bind fun y =>
      .done (y.map fun _ => String.join ((c.feed x).chunks.map (·.delta))) := by
  rw [Client.stream_eq, relayFeed_eq]

/-- The result of a stream whose consumer has answered so in the end. -/
def relayResult (id : ConversationId) (feed : Feed) (answer : Option (Except ProviderError Unit)) :
    Option (Except PipelineError ConversationId) :=
  (feed.verdict answer).map fun x => (x.map fun _ => id).mapError streamFailure

/-- What was offered in a run that relays a feed, and what the run has come to. -/
lemma runs_relayFeed {t x} (h : Runs κ (relayFeed sink id feed) s t x s') :
    ∃ offered answer, Offered κ sink s t offered answer s' ∧ offered <+: feed.chunks.map (·.frame id) ∧
      (answer = some (.ok ()) → offered = feed.chunks.map (·.frame id)) ∧
      x = (feed.verdict answer).map (·.map fun _ => String.join (feed.chunks.map (·.delta))) := by
  rw [relayFeed_eq] at h
  obtain ⟨y, hdelivered, rfl⟩ : ∃ y, Runs κ (feed.deliver fun c => sink (c.frame id)) s t y s' ∧
      x = y.map (·.map fun _ => String.join (feed.chunks.map (·.delta))) := by
    rcases runs_bind.mp h with ⟨y, m, t₁, t₂, hdelivered, hrest, rfl⟩ | ⟨hdelivered, rfl⟩
    · obtain ⟨rfl, rfl, rfl⟩ := runs_done.mp hrest
      exact ⟨some y, by simpa using hdelivered, rfl⟩
    · exact ⟨none, hdelivered, rfl⟩
  obtain ⟨offered, answer, hoffered, hfront, hall, rfl⟩ := Feed.runs_deliver hdelivered
  exact ⟨offered.map (·.frame id), answer, hoffered.map, hfront.map _, fun hok => by rw [hall hok], rfl⟩

lemma relayResult_eq_ok {answer} {id' : ConversationId} : relayResult id feed answer = some (.ok id') ↔
    id' = id ∧ answer = some (.ok ()) ∧ feed.ending = .finished := by
  rw [← Feed.verdict_eq_ok, relayResult]
  match feed.verdict answer with
  | none => simp
  | some (.error e) => simp [Except.map, Except.mapError]
  | some (.ok ()) => simp [Except.map, Except.mapError, eq_comm]

lemma relayResult_eq_error {answer} {e : PipelineError} : relayResult id feed answer = some (.error e) ↔
    ∃ d, feed.firstFailure? answer = some d ∧ streamFailure d = e := by
  simp only [← Feed.verdict_eq_error, relayResult]
  match feed.verdict answer with
  | none => simp
  | some (.error e) => simp [Except.map, Except.mapError]
  | some (.ok ()) => simp [Except.map, Except.mapError]

lemma relayResult_eq_none {answer} : relayResult id feed answer = none ↔
    answer = none ∨ answer = some (.ok ()) ∧ feed.ending = .silent := by
  rw [← Feed.verdict_eq_none, relayResult, Option.map_eq_none_iff]

lemma relayResult_eq_cancelled {answer} : relayResult id feed answer = some (.error .cancelled) ↔
    ∃ reason, feed.firstFailure? answer = some (.aborted reason) := by
  rw [relayResult_eq_error]
  constructor
  · rintro ⟨d, hd, hcancelled⟩
    cases d with
    | aborted reason => exact ⟨reason, hd⟩
    | _ => cases hcancelled
  · rintro ⟨reason, hd⟩
    exact ⟨_, hd, rfl⟩

lemma relayResult_eq_backend {answer} {e : ProviderError} : relayResult id feed answer = some (.error (.backend e)) ↔
    feed.firstFailure? answer = some e ∧ ∀ reason, e ≠ .aborted reason := by
  rw [relayResult_eq_error]
  constructor
  · rintro ⟨d, hd, hbackend⟩
    cases d <;> cases hbackend <;> exact ⟨hd, fun _ heq => nomatch heq⟩
  · rintro ⟨hd, hnot⟩
    refine ⟨e, hd, ?_⟩
    cases e with
    | aborted reason => exact absurd rfl (hnot reason)
    | _ => rfl

/-! ### Whole runs -/

lemma Consuming.not_preparing {c : Call} (h : Consuming c) : ¬ Preparing c := by
  cases c <;> first | exact h.elim | exact id

lemma consuming_appended {e : Event σ} (h : Consuming e.call) : appended? e = none := by
  obtain ⟨c, a, m⟩ := e
  cases c <;> first | rfl | exact h.elim

lemma PersistRun.not_consuming {prompt content model tokens latency t}
    (h : PersistRun κ id prompt content model tokens latency s t s') : ∀ x ∈ t, ¬ Consuming x.call := by
  obtain ⟨drawn, clock, asked, drawn', clock', answered⟩ := h
  simp [Consuming]

/-- A run that opens a feed and relays it. Only one that comes to a good end goes on to the record. -/
inductive FedRun (κ : Conduct σ) (o : Orchestrator) (sink : FrameSink) (p : Principal) (q : PipelineRequest) (s : σ) :
    List (Event σ) → Option (Except PipelineError ConversationId) → σ → ConversationId → Feed → List StreamFrame →
      Option (Except ProviderError Unit) → Prop
  | broken {t₁ id ms m feed m' t₂ offered answer s'} (ready : ReadyRun κ o p q s t₁ id ms m)
      (opened : κ (.openFeed (o.requestFor q ms)) m feed m') (offering : Offered κ sink m' t₂ offered answer s')
      (inOrder : offered <+: feed.chunks.map (·.frame id))
      (all : answer = some (.ok ()) → offered = feed.chunks.map (·.frame id))
      (unfinished : ∀ id', relayResult id feed answer ≠ some (.ok id')) :
      FedRun κ o sink p q s (t₁ ++ ⟨.openFeed (o.requestFor q ms), feed, m'⟩ :: t₂) (relayResult id feed answer) s' id feed
        offered answer
  | recorded {t₁ id ms m feed m' t₂ m'' t₃ s'} (ready : ReadyRun κ o p q s t₁ id ms m)
      (opened : κ (.openFeed (o.requestFor q ms)) m feed m')
      (offering : Offered κ sink m' t₂ (feed.chunks.map (·.frame id)) (some (.ok ())) m'')
      (finished : feed.ending = .finished)
      (persisted : PersistRun κ id q.prompt (String.join (feed.chunks.map (·.delta))) o.defaults.model 0 default m'' t₃ s') :
      FedRun κ o sink p q s (t₁ ++ ⟨.openFeed (o.requestFor q ms), feed, m'⟩ :: (t₂ ++ t₃)) (some (.ok id)) s' id feed
        (feed.chunks.map (·.frame id)) (some (.ok ()))

/-- A run that is not refused is fed. -/
lemma StreamRun.fed {t r} (h : StreamRun κ o sink p q s t r s') :
    (∃ e, RefusedRun κ o p q s t e s' ∧ r = some (.error e)) ∨
    ∃ id feed offered answer, FedRun κ o sink p q s t r s' id feed offered answer := by
  cases h with
  | refused h => exact .inl ⟨_, h, rfl⟩
  | @silent _ id _ _ feed _ _ _ ready opened relayed =>
    obtain ⟨offered, answer, offering, inOrder, all, hx⟩ := runs_relayFeed relayed
    have hresult : relayResult id feed answer = none := by
      rw [relayResult, Option.map_eq_none_iff.mp hx.symm, Option.map_none]
    rw [← hresult]
    exact .inr ⟨_, _, _, _, .broken ready opened offering inOrder all (by simp [hresult])⟩
  | @failed _ id _ _ feed _ _ e _ ready opened relayed =>
    obtain ⟨offered, answer, offering, inOrder, all, hx⟩ := runs_relayFeed relayed
    obtain ⟨d | u, hverdict, hd⟩ := Option.map_eq_some_iff.mp hx.symm <;> cases hd
    have hresult : relayResult id feed answer = some (.error (streamFailure e)) := by rw [relayResult, hverdict]; rfl
    rw [← hresult]
    exact .inr ⟨_, _, _, _, .broken ready opened offering inOrder all (by simp [hresult])⟩
  | @finished _ id _ _ feed _ _ _ _ _ _ ready opened relayed persisted =>
    obtain ⟨offered, answer, offering, inOrder, all, hx⟩ := runs_relayFeed relayed
    obtain ⟨d | u, hverdict, hd⟩ := Option.map_eq_some_iff.mp hx.symm <;> cases hd
    obtain ⟨rfl, finished⟩ := Feed.verdict_eq_ok.mp hverdict
    obtain rfl := all rfl
    exact .inr ⟨_, _, _, _, .recorded ready opened offering finished persisted⟩

/-- A run that was fed a stream in a conversation. Its consumer was offered frames, and has answered so in the end. -/
structure Relayed (κ : Conduct σ) (o : Orchestrator) (sink : FrameSink) (p : Principal) (q : PipelineRequest) (s : σ)
    (t : List (Event σ)) (r : Option (Except PipelineError ConversationId)) (s' : σ) (id : ConversationId) (feed : Feed)
    (offered : List StreamFrame) (answer : Option (Except ProviderError Unit)) : Prop where
  /-- The conversation is found or begun, the feed is opened, and then the consumer is called. -/
  course : ∃ ms t₁ m m' t₂ m'' t₃, ReadyRun κ o p q s t₁ id ms m ∧ Offered κ sink m' t₂ offered answer m'' ∧
    t = t₁ ++ ⟨.openFeed (o.requestFor q ms), feed, m'⟩ :: (t₂ ++ t₃) ∧ ∀ x ∈ t₁ ++ t₃, ¬ Consuming x.call
  inOrder : offered <+: feed.chunks.map (·.frame id)
  /-- All frames were offered if none was refused. -/
  all : answer = some (.ok ()) → offered = feed.chunks.map (·.frame id)
  finished : ∀ id', r = some (.ok id') ↔ id' = id ∧ answer = some (.ok ()) ∧ feed.ending = .finished
  cancelled : r = some (.error .cancelled) ↔ ∃ reason, feed.firstFailure? answer = some (.aborted reason)
  failed : ∀ e, r = some (.error (.backend e)) ↔ feed.firstFailure? answer = some e ∧ ∀ reason, e ≠ .aborted reason
  /-- Nothing but a consumer or a feed that falls silent keeps the run from its end. -/
  stalled : r = none ↔ answer = none ∨ answer = some (.ok ()) ∧ feed.ending = .silent
  appended : r = some (.ok id) → ∃ u w u' w', t.filterMap appended? = [.ofUser u w id q.prompt,
    ⟨u', id, .assistant, String.join (feed.chunks.map (·.delta)), none, some o.defaults.model, none, w'⟩]
  unappended : r ≠ some (.ok id) → t.filterMap appended? = []
  /-- What was appended is on record if the store has accepted it. -/
  persisted : ∀ record : σ → List Message, Keeps κ record → (∀ x ∈ t, accepted x = true) →
    record s' = record s ++ t.filterMap appended?

namespace FedRun
variable {t : List (Event σ)} {r : Option (Except PipelineError ConversationId)} {offered : List StreamFrame}
  {answer : Option (Except ProviderError Unit)}

lemma result (h : FedRun κ o sink p q s t r s' id feed offered answer) : r = relayResult id feed answer := by
  cases h with
  | broken => rfl
  | recorded ready opened offering finished => exact (relayResult_eq_ok.mpr ⟨rfl, rfl, finished⟩).symm

lemma inOrder (h : FedRun κ o sink p q s t r s' id feed offered answer) :
    offered <+: feed.chunks.map (·.frame id) ∧ (answer = some (.ok ()) → offered = feed.chunks.map (·.frame id)) := by
  cases h with
  | broken ready opened offering inOrder all => exact ⟨inOrder, all⟩
  | recorded => exact ⟨List.prefix_rfl, fun _ => rfl⟩

lemma course (h : FedRun κ o sink p q s t r s' id feed offered answer) :
    ∃ ms t₁ m m' t₂ m'' t₃, ReadyRun κ o p q s t₁ id ms m ∧ Offered κ sink m' t₂ offered answer m'' ∧
      t = t₁ ++ ⟨.openFeed (o.requestFor q ms), feed, m'⟩ :: (t₂ ++ t₃) ∧ ∀ x ∈ t₁ ++ t₃, ¬ Consuming x.call := by
  cases h with
  | broken ready opened offering =>
    refine ⟨_, _, _, _, _, _, [], ready, offering, by simp, fun x hx hconsuming => ?_⟩
    rw [List.append_nil] at hx
    exact Consuming.not_preparing hconsuming (ready.preparing x hx)
  | recorded ready opened offering finished persisted =>
    refine ⟨_, _, _, _, _, _, _, ready, offering, rfl, fun x hx hconsuming => ?_⟩
    rcases List.mem_append.mp hx with hx | hx
    · exact Consuming.not_preparing hconsuming (ready.preparing x hx)
    · exact persisted.not_consuming x hx hconsuming

lemma appended (hsink : ∀ f, (sink f).Only Consuming) (h : FedRun κ o sink p q s t r s' id feed offered answer)
    (hr : r = some (.ok id)) : ∃ u w u' w', t.filterMap appended? = [.ofUser u w id q.prompt,
      .ofAssistant u' w' id (String.join (feed.chunks.map (·.delta))) o.defaults.model 0 default] := by
  cases h with
  | broken ready opened offering inOrder all unfinished => exact absurd hr (unfinished id)
  | recorded ready opened offering finished persisted =>
    obtain ⟨u, w, u', w', happended⟩ := persisted_appended persisted
    refine ⟨u, w, u', w', ?_⟩
    rw [List.filterMap_append, List.filterMap_cons, List.filterMap_append,
      filterMap_eq_nil (fun e => appended?_eq_none) ready.preparing,
      filterMap_eq_nil (fun e => consuming_appended) (offering.only hsink), happended]
    rfl

lemma unappended (hsink : ∀ f, (sink f).Only Consuming) (h : FedRun κ o sink p q s t r s' id feed offered answer)
    (hr : r ≠ some (.ok id)) : t.filterMap appended? = [] := by
  cases h with
  | broken ready opened offering =>
    rw [List.filterMap_append, List.filterMap_cons, filterMap_eq_nil (fun e => appended?_eq_none) ready.preparing,
      filterMap_eq_nil (fun e => consuming_appended) (offering.only hsink)]
    rfl
  | recorded => exact absurd rfl hr

lemma relayed (hsink : ∀ f, (sink f).Only Consuming) (hrun : Runs κ (o.stream sink p q) s t r s')
    (h : FedRun κ o sink p q s t r s' id feed offered answer) :
    Relayed κ o sink p q s t r s' id feed offered answer where
  course := h.course
  inOrder := h.inOrder.1
  all := h.inOrder.2
  finished id' := by rw [h.result, relayResult_eq_ok]
  cancelled := by rw [h.result, relayResult_eq_cancelled]
  failed e := by rw [h.result, relayResult_eq_backend]
  stalled := by rw [h.result, relayResult_eq_none]
  appended := h.appended hsink
  unappended := h.unappended hsink
  persisted record hkeeps haccepted := hkeeps.runs hrun haccepted

end FedRun

/-- A run that is fed a stream offers its frames in order up to the first refusal, ends as its first failure says, and puts
prompt and answer on record if there was none. -/
theorem stream_relays (hsink : ∀ f, (sink f).Only Consuming) {t r} (hrun : Runs κ (o.stream sink p q) s t r s') :
    (∃ e, RefusedRun κ o p q s t e s' ∧ r = some (.error e)) ∨
    ∃ id feed offered answer, Relayed κ o sink p q s t r s' id feed offered answer := by
  rcases (runs_stream hrun).fed with refused | ⟨id, feed, offered, answer, fed⟩
  · exact .inl refused
  · exact .inr ⟨id, feed, offered, answer, fed.relayed hsink hrun⟩

/-! A consumer that leaves. The backend sends two chunks, and the frame of the second is refused. -/

def partingFeed : Feed := ⟨[⟨"1", "Hi", none, none⟩, ⟨"2", " there", some "stop", none⟩], .finished⟩

/-- A store in memory, and a consumer that takes one frame. -/
def parting : Handler (Store.Memory × Bool)
  | .offer _, s => (if s.2 then .error (.aborted "receiver closed") else .ok (), (s.1, true))
  | c, s => let r := Store.Memory.steady ⟨"", "Hi there", "m", none, none⟩ partingFeed c s.1; (r.1, (r.2, s.2))

def parted : Conduct (Store.Memory × Bool) := fun c s a s' => parting c s = (a, s')

def partingRun : List (Event (Store.Memory × Bool)) × Option (Except PipelineError ConversationId) × Store.Memory × Bool :=
  (greeter.stream (fun f => perform (.offer f)) ⟨"alice"⟩ greetingQuery).record parting (.empty, false)

theorem stream_relays_parting :
    (∃ id feed offered answer, Relayed parted greeter (fun f => perform (.offer f)) ⟨"alice"⟩ greetingQuery
      (.empty, false) partingRun.1 partingRun.2.1 partingRun.2.2 id feed offered answer) ∧
    partingRun.1.filterMap offered? = [⟨"1", ⟨⟨0⟩⟩, "Hi", none, none⟩] ∧
    partingRun.2.1 = some (.error .cancelled) ∧ partingRun.2.2.1.messages = [] := by
  have hrun : Runs parted (greeter.stream (fun f => perform (.offer f)) ⟨"alice"⟩ greetingQuery) (.empty, false)
      partingRun.1 partingRun.2.1 partingRun.2.2 := record_runs (fun _ _ => rfl) _ _
  refine ⟨?_, rfl, rfl, rfl⟩
  rcases stream_relays (fun f => .perform trivial) hrun with ⟨e, refused, -⟩ | relayed
  · have hnone := filterMap_eq_nil (fun e => offered?_eq_none) refused.preparing
    cases hnone
  · exact relayed

end Orchestrator
end CompletionGateway
