import CompletionGateway.Proofs.Pipeline.Relaying

/-! Whole answers and streamed ones agree. From one state, and with a cache that never finds anything, both are refused
alike, or both go on in the same conversation and send the backend the same request. If the stream says what the whole
answer says, both put the same on record. -/
namespace CompletionGateway
open Program Gateway

/-- What a message on record says, and where. -/
def Message.statement (m : Message) : ConversationId × Role × String := (m.conversation, m.role, m.content)

namespace Orchestrator
variable {σ : Type} {κ : Conduct σ} {o : Orchestrator} {sink : FrameSink} {p : Principal} {q : PipelineRequest}
  {id : ConversationId} {s s' : σ}

/-! ### The part in common -/

/-- What both do first: check the prompt, find or begin the conversation, and read its messages. -/
def prepare (o : Orchestrator) (p : Principal) (q : PipelineRequest) : Attempt (ConversationId × List Message) :=
  Attempt.andThen (.done (o.validate q)) fun _ =>
  Attempt.andThen (resolve p q.conversation) fun id =>
  Attempt.andThen (Attempt.ofStore (perform (.listMessages id))) fun ms =>
  .done (.ok (id, ms))

lemma prepare_valid (h : o.validate q = .ok ()) : o.prepare p q =
    Attempt.andThen (resolve p q.conversation) fun id =>
      Attempt.andThen (Attempt.ofStore (perform (.listMessages id))) fun ms => .done (.ok (id, ms)) := by
  rw [prepare, h]
  rfl

lemma RefusedRun.prepare {t e} (h : RefusedRun κ o p q s t e s') :
    Runs κ (o.prepare p q) s t (some (.error e)) s' := by
  cases h with
  | invalid bad =>
    rw [Orchestrator.prepare, bad]
    exact .done _ _
  | unresolved valid resolved =>
    rw [prepare_valid valid]
    exact Attempt.runs_andThen.mpr (.inr (.inl ⟨e, resolved, rfl⟩))
  | unread valid resolved read =>
    rw [prepare_valid valid]
    exact Attempt.runs_andThen.mpr (.inl ⟨_, _, _, _, resolved, .call read (.done _ _), rfl⟩)

lemma ReadyRun.prepare {t ms} (h : ReadyRun κ o p q s t id ms s') :
    Runs κ (o.prepare p q) s t (some (.ok (id, ms))) s' := by
  obtain ⟨valid, resolved, read⟩ := h
  rw [prepare_valid valid]
  exact Attempt.runs_andThen.mpr (.inl ⟨_, _, _, _, resolved, .call read (.done _ _), rfl⟩)

/-! ### Each of the two -/

/-- A run that asks the backend for a whole answer. -/
structure AskedWhole (κ : Conduct σ) (o : Orchestrator) (p : Principal) (q : PipelineRequest) (s : σ)
    (t : List (Event σ)) (x : Except PipelineError InferenceResponse) (u : List (Event σ)) (id : ConversationId)
    (ms : List Message) (a : Except ProviderError CompletionResponse) : Prop where
  ready : ∃ v m, ReadyRun κ o p q s u id ms m ∧ t = u ++ v
  /-- The backend is asked for this and nothing else, and answers so. -/
  asked : t.filterMap asked? = [o.requestFor q ms] ∧ ∃ m, ⟨.complete (o.requestFor q ms), a, m⟩ ∈ t
  failed : ∀ e, a = .error e → x = .error (.backend e)
  answered : ∀ c, a = .ok c → (∃ r, x = .ok r ∧ r.conversation = id) ∧
    (t.filterMap appended?).map Message.statement = [(id, .user, q.prompt), (id, .assistant, c.content)]

lemma CompleteRun.asked (hcache : ∀ {key s a s'}, κ (.readCache key) s a s' → a = .ok none) {t x}
    (h : CompleteRun κ o p q s t x s') :
    (∃ e, RefusedRun κ o p q s t e s' ∧ x = .error e) ∨ ∃ u id ms a, AskedWhole κ o p q s t x u id ms a := by
  cases h with
  | refused h => exact .inl ⟨_, h, rfl⟩
  | hit ready looked found timed =>
    rw [hcache looked] at found
    cases found
  | @failed u id ms m _ _ e _ ready looked missed asked =>
    refine .inr ⟨u, id, ms, .error e, ⟨_, m, ready, rfl⟩,
      ⟨?_, _, List.mem_append_right _ (List.mem_cons_of_mem _ List.mem_cons_self)⟩, ?_, ?_⟩
    · rw [List.filterMap_append, filterMap_eq_nil (fun e => asked?_eq_none) ready.preparing]
      rfl
    · intro e' he
      cases he
      rfl
    · intro c hc
      cases hc
  | @answered u id ms m _ _ c _ _ _ _ _ _ _ _ _ ready looked missed asked drawn timed kept persisted =>
    refine .inr ⟨u, id, ms, .ok c, ⟨_, m, ready, rfl⟩,
      ⟨?_, _, List.mem_append_right _ (List.mem_cons_of_mem _ List.mem_cons_self)⟩, ?_, ?_⟩
    · simp only [List.filterMap_append, List.filterMap_cons, filterMap_eq_nil (fun e => asked?_eq_none) ready.preparing,
        List.filterMap_eq_nil_iff.mpr fun e he => persisted.asks he, asked?, List.nil_append]
    · intro e he
      cases he
    · intro c' hc
      cases hc
      refine ⟨⟨_, rfl, rfl⟩, ?_⟩
      obtain ⟨u, w, u', w', happended⟩ := persisted_appended persisted
      simp only [List.filterMap_append, List.filterMap_cons, filterMap_eq_nil (fun e => appended?_eq_none) ready.preparing,
        happended, appended?, List.nil_append]
      rfl

/-- A run that asks the backend for a streamed answer. -/
structure AskedStreamed (κ : Conduct σ) (o : Orchestrator) (sink : FrameSink) (p : Principal) (q : PipelineRequest) (s : σ)
    (t : List (Event σ)) (y : Option (Except PipelineError ConversationId)) (u : List (Event σ)) (id : ConversationId)
    (ms : List Message) (feed : Feed) : Prop where
  ready : ∃ v m, ReadyRun κ o p q s u id ms m ∧ t = u ++ v
  /-- The backend is asked for this and nothing else, and answers so. -/
  asked : t.filterMap asked? = [o.requestFor q ms] ∧ ∃ m, ⟨.openFeed (o.requestFor q ms), feed, m⟩ ∈ t
  finished : (∀ f s t r s', Runs κ (sink f) s t r s' → r = some (.ok ())) → feed.ending = .finished → y = some (.ok id)
  answered : ∀ id', y = some (.ok id') → id' = id ∧ (t.filterMap appended?).map Message.statement =
    [(id, .user, q.prompt), (id, .assistant, String.join (feed.chunks.map (·.delta)))]

lemma consuming_asked {e : Event σ} (h : Consuming e.call) : asked? e = none := by
  obtain ⟨c, a, m⟩ := e
  cases c <;> first | rfl | exact h.elim

lemma FedRun.asked (hsink : ∀ f, (sink f).Only Consuming) {t y feed offered answer}
    (h : FedRun κ o sink p q s t y s' id feed offered answer) : ∃ u ms, AskedStreamed κ o sink p q s t y u id ms feed := by
  have hfinished : (∀ f s t r s', Runs κ (sink f) s t r s' → r = some (.ok ())) → feed.ending = .finished →
      y = some (.ok id) := by
    intro haccepts hending
    obtain ⟨_, _, _, _, _, _, _, -, offering, -⟩ := h.course
    rw [h.result, relayResult_eq_ok]
    exact ⟨rfl, offering.accepted haccepts, hending⟩
  have hanswered : ∀ id', y = some (.ok id') → id' = id ∧ (t.filterMap appended?).map Message.statement =
      [(id, .user, q.prompt), (id, .assistant, String.join (feed.chunks.map (·.delta)))] := by
    intro id' hy
    obtain ⟨rfl, -⟩ := relayResult_eq_ok.mp (h.result.symm.trans hy)
    obtain ⟨u, w, u', w', happended⟩ := h.appended hsink hy
    exact ⟨rfl, by rw [happended]; rfl⟩
  cases h with
  | @broken u _ ms m _ _ _ _ _ _ ready opened offering =>
    refine ⟨u, ms, ⟨_, m, ready, rfl⟩, ⟨?_, _, List.mem_append_right _ List.mem_cons_self⟩, hfinished, hanswered⟩
    rw [List.filterMap_append, List.filterMap_cons, filterMap_eq_nil (fun e => asked?_eq_none) ready.preparing,
      filterMap_eq_nil (fun e => consuming_asked) (offering.only hsink)]
    rfl
  | @recorded u _ ms m _ _ _ _ _ _ ready opened offering finished persisted =>
    refine ⟨u, ms, ⟨_, m, ready, rfl⟩, ⟨?_, _, List.mem_append_right _ List.mem_cons_self⟩, hfinished, hanswered⟩
    rw [List.filterMap_append, List.filterMap_cons, List.filterMap_append,
      filterMap_eq_nil (fun e => asked?_eq_none) ready.preparing,
      filterMap_eq_nil (fun e => consuming_asked) (offering.only hsink),
      List.filterMap_eq_nil_iff.mpr fun e he => persisted.asks he]
    rfl

/-! ### Both -/

/-- Two runs of one request, the first for a whole answer and the second for a streamed one, that agree. -/
inductive Agreeing (κ : Conduct σ) (o : Orchestrator) (sink : FrameSink) (p : Principal) (q : PipelineRequest) (s : σ) :
    List (Event σ) → Option (Except PipelineError InferenceResponse) → List (Event σ) →
      Option (Except PipelineError ConversationId) → Prop
  /-- They make the same calls, and fail with the same error before the backend is asked. -/
  | refused {t e m} (h : RefusedRun κ o p q s t e m) (unasked : t.filterMap asked? = []) :
      Agreeing κ o sink p q s t (some (.error e)) t (some (.error e))
  /-- They find or begin the same conversation by the same calls, and ask the backend for the same. -/
  | asked {t x t' y u id ms a feed} (whole : AskedWhole κ o p q s t x u id ms a)
      (streamed : AskedStreamed κ o sink p q s t' y u id ms feed)
      (alike : ∀ c id', a = .ok c → y = some (.ok id') → String.join (feed.chunks.map (·.delta)) = c.content →
        (t.filterMap appended?).map Message.statement = (t'.filterMap appended?).map Message.statement) :
      Agreeing κ o sink p q s t (some x) t' y

/-- Whole answers and streamed ones agree if the cache never finds anything. -/
theorem paths_agree (hκ : Deterministic κ) (hcache : ∀ {key s a s'}, κ (.readCache key) s a s' → a = .ok none)
    (hsink : ∀ f, (sink f).Only Consuming) {t x m t' y m'} (hwhole : Runs κ (o.complete p q) s t x m)
    (hstreamed : Runs κ (o.stream sink p q) s t' y m') : Agreeing κ o sink p q s t x t' y := by
  obtain ⟨x, rfl, hcomplete⟩ := runs_complete hwhole
  rcases hcomplete.asked hcache with ⟨e, refused, rfl⟩ | ⟨u, id, ms, a, whole⟩ <;>
    rcases (runs_stream hstreamed).fed with ⟨e', refused', rfl⟩ | ⟨id', feed, offered, answer, fed⟩
  · obtain ⟨rfl, he, -⟩ := refused.prepare.deterministic hκ refused'.prepare
    cases he
    exact .refused refused (filterMap_eq_nil (fun e => asked?_eq_none) refused.preparing)
  · obtain ⟨u', ms', streamed⟩ := fed.asked hsink
    obtain ⟨v, k, ready, -⟩ := streamed.ready
    cases (refused.prepare.deterministic hκ ready.prepare).2.1
  · obtain ⟨v, k, ready, -⟩ := whole.ready
    cases (refused'.prepare.deterministic hκ ready.prepare).2.1
  · obtain ⟨u', ms', streamed⟩ := fed.asked hsink
    obtain ⟨v, k, ready, -⟩ := whole.ready
    obtain ⟨v', k', ready', -⟩ := streamed.ready
    obtain ⟨rfl, hfound, -⟩ := ready.prepare.deterministic hκ ready'.prepare
    cases hfound
    refine .asked whole streamed ?_
    rintro c id' rfl hy hjoin
    rw [(whole.answered c rfl).2, (streamed.answered id' hy).2, hjoin]

/-! A backend that answers the same in one piece and in two. -/

def steadily : Handler Store.Memory := Store.Memory.steady ⟨"", "Hi there", "m", none, none⟩ partingFeed

def wholeRun : List (Event Store.Memory) × Option (Except PipelineError InferenceResponse) × Store.Memory :=
  (greeter.complete ⟨"alice"⟩ greetingQuery).record steadily .empty

def streamedRun : List (Event Store.Memory) × Option (Except PipelineError ConversationId) × Store.Memory :=
  (greeter.stream (fun f => perform (.offer f)) ⟨"alice"⟩ greetingQuery).record steadily .empty

theorem paths_agree_steadily :
    Agreeing (fun c s a s' => steadily c s = (a, s')) greeter (fun f => perform (.offer f)) ⟨"alice"⟩ greetingQuery .empty
      wholeRun.1 wholeRun.2.1 streamedRun.1 streamedRun.2.1 ∧
    (wholeRun.2.2.messages.map Message.statement) = [(⟨⟨0⟩⟩, .user, "Hello"), (⟨⟨0⟩⟩, .assistant, "Hi there")] ∧
    (streamedRun.2.2.messages.map Message.statement) =
      [(⟨⟨0⟩⟩, .user, "Hello"), (⟨⟨0⟩⟩, .assistant, "Hi there")] := by
  refine ⟨?_, rfl, rfl⟩
  refine paths_agree (deterministic_handler steadily) ?_ (fun f => .perform trivial)
    (record_runs (fun _ _ => rfl) _ _) (record_runs (fun _ _ => rfl) _ _)
  intro key s a s' h
  exact (congrArg Prod.fst h).symm

end Orchestrator
end CompletionGateway
