import CompletionGateway.Proofs.Gateway.Accounting
import CompletionGateway.Proofs.Program.Lockstep

/-! What clients are told of failures. The texts of failures of the store, of the cache and of admission control reach no
client. Of a failure of the backend the whole message does, behind a fixed prefix; nothing else of a response depends on
it. -/
namespace CompletionGateway
open Program Gateway

/-- The failure without its text: its kind and, for a response of the backend, its status. -/
def ProviderError.blank : ProviderError → ProviderError
  | .api status _ => .api status ""
  | .network _ => .network ""
  | .timeout _ => .timeout ""
  | .streamInterrupted _ => .streamInterrupted ""
  | .decode _ => .decode ""
  | .emptyResponse => .emptyResponse
  | .aborted _ => .aborted ""

/-- Failures of the backend that differ in their texts only. -/
def ProviderError.Kin (e e' : ProviderError) : Prop := e.blank = e'.blank

variable {α β ε : Type} {P : ProviderError → ProviderError → Prop}

/-! ### Answers that differ in what failures say -/

/-- The same value, or two failures that are related. -/
inductive SameUpTo (R : ε → ε → Prop) : Except ε α → Except ε α → Prop
  | ok (a) : SameUpTo R (.ok a) (.ok a)
  | error {e e'} (failures : R e e') : SameUpTo R (.error e) (.error e')

/-- The same feed, but for the failure that it ends with. -/
inductive Feed.SameUpTo (R : ProviderError → ProviderError → Prop) : Feed → Feed → Prop
  | same (feed) : SameUpTo R feed feed
  | failed (chunks) {e e'} (failures : R e e') : SameUpTo R ⟨chunks, .failed e⟩ ⟨chunks, .failed e'⟩

/-- Answers are the same but for failures: those of the backend are related, and others may be any. -/
def Muffled (P : ProviderError → ProviderError → Prop) : Likeness
  | .findConversation _ => SameUpTo fun _ _ => True
  | .createConversation _ => SameUpTo fun _ _ => True
  | .appendMessage _ => SameUpTo fun _ _ => True
  | .listMessages _ => SameUpTo fun _ _ => True
  | .listConversations _ _ => SameUpTo fun _ _ => True
  | .pingStore => SameUpTo fun _ _ => True
  | .readCache _ => SameUpTo fun _ _ => True
  | .writeCache _ _ _ => SameUpTo fun _ _ => True
  | .pingCache => SameUpTo fun _ _ => True
  | .complete _ => SameUpTo P
  | .openFeed _ => Feed.SameUpTo P
  | .hit _ _ => SameUpTo fun _ _ => True
  | .offer _ => Eq
  | .emit _ => Eq
  | .freshConversation => Eq
  | .freshUuid => Eq
  | .wallClock => Eq
  | .elapsed => Eq

lemma SameUpTo.refl {R : ε → ε → Prop} (hR : ∀ e, R e e) (x : Except ε α) : SameUpTo R x x := by
  cases x with
  | ok a => exact .ok a
  | error e => exact .error (hR e)

lemma Muffled.refl (hP : ∀ e, P e e) (c : Call) (a : c.Answer) : Muffled P c a a := by
  cases c <;> first | exact SameUpTo.refl (fun _ => trivial) a | exact SameUpTo.refl hP a | exact .same a | rfl

/-! ### What clients see -/

/-- The event that tells a client of a failure of the backend. -/
def backendEvent (e : ProviderError) : EventStream.Event := .ofFailure (PipelineError.backend e).clientMessage

/-- Two events that tell of related failures of the backend. -/
inductive ToldEvent (P : ProviderError → ProviderError → Prop) : EventStream.Event → EventStream.Event → Prop
  | mk {e e'} (failures : P e e') : ToldEvent P (backendEvent e) (backendEvent e')

/-- The body that tells a client of a failure of the backend. -/
def backendBody (e : ProviderError) : Body := (Reply.ofError (.backend e)).body

/-- The same reply, or two that have the same head and tell of related failures of the backend. -/
inductive ToldReply (P : ProviderError → ProviderError → Prop) : Reply → Reply → Prop
  | same (reply) : ToldReply P reply reply
  | failed (head) {e e'} (failures : P e e') : ToldReply P ⟨head, backendBody e⟩ ⟨head, backendBody e'⟩

/-- The same outcome of an attempt, two failures of the store, or two related ones of the backend. -/
inductive Blurred (P : ProviderError → ProviderError → Prop) : Except PipelineError α → Except PipelineError α → Prop
  | same (x) : Blurred P x x
  | store (e e') : Blurred P (.error (.store e)) (.error (.store e'))
  | backend {e e'} (failures : P e e') : Blurred P (.error (.backend e)) (.error (.backend e'))

/-- Two programs that differ at most in what they tell of failures of the backend. -/
abbrev InStep (P : ProviderError → ProviderError → Prop) (Q : α → β → Prop) : Program α → Program β → Prop :=
  Lockstep (Muffled P) (ToldEvent P) Q

/-- A relation of failures that differ in their texts at most. -/
structure Kindred (P : ProviderError → ProviderError → Prop) : Prop where
  refl : ∀ e, P e e
  blank : ∀ {e e'}, P e e' → e.blank = e'.blank

/-! ### The pipeline -/

namespace Attempt

lemma andThen_inStep {p p' : Attempt α} {f f' : α → Attempt β} (hp : InStep P (Blurred P) p p')
    (hf : ∀ a, InStep P (Blurred P) (f a) (f' a)) : InStep P (Blurred P) (p.andThen f) (p'.andThen f') := by
  refine hp.bind fun x x' hx => ?_
  cases hx with
  | same x =>
    cases x with
    | ok a => exact hf a
    | error e => exact .done (.same _)
  | store e e' => exact .done (.store e e')
  | backend failures => exact .done (.backend failures)

lemma ofStore_inStep {p p' : Program (Except StoreError α)} (hp : InStep P (SameUpTo fun _ _ => True) p p') :
    InStep P (Blurred P) (ofStore p) (ofStore p') := by
  refine hp.bind fun x x' hx => ?_
  cases hx with
  | ok a => exact .done (.same _)
  | error _ => exact .done (.store _ _)

end Attempt

namespace Orchestrator
open Attempt
variable {o : Orchestrator} {p : Principal} {q : PipelineRequest}

lemma startConversation_inStep : InStep P (Blurred P) (startConversation p) (startConversation p) := by
  refine .perform_heeded id fun conversation => .perform_heeded id fun now => ?_
  exact andThen_inStep (ofStore_inStep (.call fun _ _ h => .done h)) fun _ => .done (.same _)

lemma resolve_inStep (named : Option ConversationId) : InStep P (Blurred P) (resolve p named) (resolve p named) := by
  cases named with
  | none => exact startConversation_inStep
  | some id =>
    refine andThen_inStep (ofStore_inStep (.call fun _ _ h => .done h)) ?_
    rintro (_ | c)
    · exact startConversation_inStep
    · dsimp only
      split <;> exact .done (.same _)

lemma history_inStep (limit : Nat) (id : ConversationId) (prompt : String) :
    InStep P (SameUpTo fun _ _ => True) (Context.history limit id prompt) (Context.history limit id prompt) := by
  refine .perform_bind fun x x' h => ?_
  cases h with
  | ok ms => exact .done (.ok _)
  | error _ => exact .done (.error trivial)

lemma build_inStep (injector : Injector) (limit : Nat) (id : ConversationId) (prompt : String) :
    InStep P (SameUpTo fun _ _ => True) (Context.build injector limit id prompt)
      (Context.build injector limit id prompt) := by
  refine (history_inStep limit id prompt).bind fun x x' h => ?_
  cases h with
  | ok turns => exact .done (.ok _)
  | error _ => exact .done (.error trivial)

lemma lookup_inStep (decode : List UInt8 → Option α) (f : Cache.Fingerprint) :
    InStep P Eq (Cache.lookup decode f) (Cache.lookup decode f) := by
  refine .perform_bind fun x x' h => ?_
  cases h with
  | ok found => exact .of_heedless (by cases found <;> trivial)
  | error _ => exact .done rfl

lemma store_inStep (ttl : Nat) (f : Cache.Fingerprint) (value : Json) :
    InStep P Eq (Cache.store ttl f value) (Cache.store ttl f value) := .perform_bind fun _ _ _ => .done rfl

lemma persist_inStep (conversation : ConversationId) (prompt content model : String) (tokens : UInt32)
    (latency : Numeric.Binary) : InStep P Eq (persist conversation prompt content model tokens latency)
      (persist conversation prompt content model tokens latency) := by
  refine .perform_heeded id fun u => .perform_heeded id fun t => .perform_bind fun _ _ _ => ?_
  exact .perform_heeded id fun u' => .perform_heeded id fun t' => .perform_bind fun _ _ _ => .done rfl

lemma complete_inStep : InStep P (Blurred P) (o.complete p q) (o.complete p q) := by
  refine andThen_inStep (.done (.same _)) fun _ => andThen_inStep (resolve_inStep _) fun conversation => ?_
  refine andThen_inStep (ofStore_inStep (history_inStep _ _ _)) fun turns => ?_
  refine (lookup_inStep _ _).bind fun found _ h => ?_
  obtain rfl := h
  cases found with
  | some hit => exact .perform_heeded id fun latency => .done (.same _)
  | none =>
    refine .perform_bind fun x x' h => ?_
    cases h with
    | error failures => exact .done (.backend failures)
    | ok c =>
      refine .perform_heeded id fun u => .perform_heeded id fun latency => ?_
      exact (store_inStep _ _ _).bind fun _ _ _ => (persist_inStep _ _ _ _ _ _).bind fun _ _ _ => .done (.same _)

lemma listMessages_inStep (id : ConversationId) : InStep P (Blurred P) (listMessages p id) (listMessages p id) := by
  refine andThen_inStep (ofStore_inStep (.call fun _ _ h => .done h)) ?_
  rintro (_ | c)
  · exact .done (.same _)
  · dsimp only
    split
    · exact ofStore_inStep (.call fun _ _ h => .done h)
    · exact .done (.same _)

lemma listConversations_inStep : InStep P (Blurred P) (listConversations p) (listConversations p) :=
  ofStore_inStep (.call fun _ _ h => .done h)

/-! ### Streams -/

lemma relay_inStep (id : ConversationId) (cs : List Chunk) (text : String) :
    InStep P Eq (relay (fun f => perform (.emit (.ofFrame f))) id cs text)
      (relay (fun f => perform (.emit (.ofFrame f))) id cs text) := by
  induction cs generalizing text with
  | nil => exact .done rfl
  | cons c cs ih =>
    refine .perform_heeded (fun h => h) fun x => ?_
    cases x with
    | ok _ => exact ih _
    | error e => exact .done rfl

lemma relayFeed_inStep (hP : Kindred P) (id : ConversationId) {feed feed' : Feed} (h : Feed.SameUpTo P feed feed') :
    InStep P (SameUpTo P) (relayFeed (fun f => perform (.emit (.ofFrame f))) id feed)
      (relayFeed (fun f => perform (.emit (.ofFrame f))) id feed') := by
  cases h with
  | same feed =>
    refine (relay_inStep id feed.chunks "").bind fun x _ h => ?_
    obtain rfl := h
    cases x with
    | error e => exact .done (.error (hP.refl e))
    | ok text =>
      dsimp only
      split
      · exact .done (.ok text)
      · exact .done (.error (hP.refl _))
      · exact .stuck
  | failed chunks failures =>
    refine (relay_inStep id chunks "").bind fun x _ h => ?_
    obtain rfl := h
    cases x with
    | error e => exact .done (.error (hP.refl e))
    | ok text => exact .done (.error failures)

/-- Whether a consumer has stopped a stream does not depend on what it says. -/
lemma streamFailure_blurred (hP : Kindred P) {e e' : ProviderError} (h : P e e') :
    Blurred P (.error (streamFailure e) : Except PipelineError α) (.error (streamFailure e')) := by
  have hblank := hP.blank h
  cases e <;> cases e' <;> first | exact .backend h | exact .same _ | cases hblank

lemma streaming_inStep (hP : Kindred P) : InStep P (Blurred P) (streaming o p q) (streaming o p q) := by
  refine andThen_inStep (.done (.same _)) fun _ => andThen_inStep (resolve_inStep _) fun id => ?_
  refine andThen_inStep (ofStore_inStep (build_inStep _ _ _ _)) fun turns => .perform_bind fun feed feed' h => ?_
  refine (relayFeed_inStep hP id h).bind fun x x' h => ?_
  cases h with
  | ok text => exact (persist_inStep _ _ _ _ _ _).bind fun _ _ _ => .done (.same _)
  | error failures => exact .done (streamFailure_blurred hP failures)

lemma endStream_inStep {y y' : Except PipelineError ConversationId} (h : Blurred P y y') :
    InStep P Eq (endStream y) (endStream y') := by
  have hsame : ∀ y, InStep P Eq (endStream y) (endStream y) := fun y =>
    .of_heedless (.of_only (Service.endStream_only y) (by rintro c ⟨e, rfl⟩ a a' h; exact h))
  cases h with
  | same y => exact hsame y
  | store e e' => exact hsame (.error (.store e))
  | backend failures =>
    have hend : ∀ d, endStream (.error (.backend d)) = Program.bind (emit (backendEvent d)) fun _ => emit .ending :=
      fun _ => rfl
    rw [hend, hend]
    refine .emit (.mk failures) fun a => ?_
    exact .perform_bind fun _ _ _ => .done rfl

lemma writeStream_inStep (hP : Kindred P) : InStep P Eq (writeStream o p q) (writeStream o p q) :=
  (streaming_inStep hP).bind fun _ _ h => endStream_inStep h

end Orchestrator

namespace Gateway
open Orchestrator

/-! ### Answers of the routes -/

/-- Replies that differ at most in what they tell of a failure of the backend. A body of events is written in step. -/
inductive Answered (P : ProviderError → ProviderError → Prop) : Reply → Reply → Prop
  | same {reply} (writes : ∀ writer, reply.body = .events writer → InStep P Eq writer writer) : Answered P reply reply
  | failed (head) {e e'} (failures : P e e') : Answered P ⟨head, backendBody e⟩ ⟨head, backendBody e'⟩

/-- A program for a reply that differs at most in what it tells of a failure of the backend. -/
abbrev InStepReply (P : ProviderError → ProviderError → Prop) (p : Program Reply) : Prop := InStep P (Answered P) p p

lemma inStep_whole {reply : Reply} (h : reply.IsWhole) : InStepReply P (.done reply) :=
  .done (.same fun _ hwriter => absurd hwriter h.not_events)

/-- An attempt is answered with its value or its failure. -/
lemma inStep_answered {attempt : Attempt α} (h : InStep P (Blurred P) attempt attempt)
    {f : Except PipelineError α → Program Reply} (hok : ∀ a, ∃ reply : Reply, f (.ok a) = .done reply ∧ reply.IsWhole)
    (herror : ∀ e, f (.error e) = .done (Reply.ofError e)) : InStepReply P (Program.bind attempt f) := by
  refine h.bind fun x x' hx => ?_
  cases hx with
  | same x =>
    cases x with
    | ok a =>
      obtain ⟨reply, hreply, hwhole⟩ := hok a
      rw [hreply]
      exact inStep_whole hwhole
    | error e =>
      rw [herror]
      exact inStep_whole ⟨_, rfl⟩
  | store e e' =>
    have hsame : Reply.ofError (.store e') = Reply.ofError (.store e) := rfl
    rw [herror, herror, hsame]
    exact inStep_whole ⟨_, rfl⟩
  | backend failures =>
    rw [herror, herror]
    exact .done (.failed _ failures)

variable {g : Service} {r : Http.Request} {p : Principal}

lemma health_inStep (cacheEnabled : Bool) : InStepReply P (health cacheEnabled) := by
  have hcache : InStep P Eq (cacheHealth cacheEnabled) (cacheHealth cacheEnabled) := by
    unfold cacheHealth
    split
    · refine .perform_bind fun x x' h => ?_
      cases h <;> exact .done rfl
    · exact .done rfl
  refine .perform_bind fun database database' h => hcache.bind fun cache _ hsame => ?_
  obtain rfl := hsame
  have hdatabase : database'.isOk = database.isOk := by cases h <;> rfl
  rw [hdatabase]
  exact inStep_whole ⟨_, rfl⟩

lemma complete_inStepReply (hP : Kindred P) (o : Orchestrator) (bodyLimit : Nat) :
    InStepReply P (complete o bodyLimit p r) := by
  unfold Gateway.complete
  split
  · rename_i fault _
    exact inStep_whole (by cases fault <;> exact ⟨_, rfl⟩)
  · split
    · split
      · exact inStep_whole ⟨_, rfl⟩
      · refine .done (.same ?_)
        rintro _ ⟨⟩
        exact writeStream_inStep hP
    · exact inStep_answered complete_inStep (fun _ => ⟨_, rfl, _, rfl⟩) fun _ => rfl

lemma messagesOf_inStep (id : String) : InStepReply P (messagesOf p id) := by
  unfold messagesOf
  split
  · exact inStep_whole ⟨_, rfl⟩
  · exact inStep_answered (listMessages_inStep _) (fun _ => ⟨_, rfl, _, rfl⟩) fun _ => rfl

lemma conversations_inStep : InStepReply P (conversations p) :=
  inStep_answered listConversations_inStep (fun _ => ⟨_, rfl, _, rfl⟩) fun _ => rfl

lemma dispatch_inStep (hP : Kindred P) : InStepReply P (g.dispatch r) :=
  dispatch_cases (motive := InStepReply P) (fun hwhole _ => inStep_whole hwhole) (health_inStep _)
    (fun _ => complete_inStepReply hP _ _) (fun _ => conversations_inStep) fun _ _ => messagesOf_inStep _

/-! ### The whole exchange -/

/-- What is put on the head of a reply depends on nothing else. -/
def HeadOnly (f : Reply → Reply) : Prop := ∃ F : Http.Head → Http.Head, ∀ reply, f reply = ⟨F reply.head, reply.body⟩

lemma HeadOnly.comp {f f' : Reply → Reply} (h : HeadOnly f) (h' : HeadOnly f') : HeadOnly (f ∘ f') := by
  obtain ⟨F, hF⟩ := h
  obtain ⟨F', hF'⟩ := h'
  exact ⟨F ∘ F', fun reply => by simp [hF, hF']⟩

lemma headOnly_id : HeadOnly id := ⟨id, fun _ => rfl⟩

lemma headOnly_withDecision (d : Admission.Decision) : HeadOnly (Service.withDecision d) := by
  unfold Service.withDecision
  cases d.retryAfter with
  | none => exact ⟨fun h => (h.set _ _).set _ _, fun _ => rfl⟩
  | some wait => exact ⟨fun h => ((h.set _ _).set _ _).set _ _, fun _ => rfl⟩

lemma headOnly_withOrigin : HeadOnly (g.withOrigin r) := by
  unfold Service.withOrigin
  cases g.allowedOrigin? r with
  | none => exact ⟨fun h => h.set _ _, fun _ => rfl⟩
  | some o => exact ⟨fun h => (h.set _ _).set _ _, fun _ => rfl⟩

lemma headOnly_withAllow : HeadOnly (Service.withAllow r) := by
  unfold Service.withAllow
  split
  · split
    · exact headOnly_id
    · exact ⟨fun h => h.setDefault _ _, fun _ => rfl⟩
  · exact headOnly_id

/-- Replies on their way out still differ at most in what they tell of a failure of the backend. -/
lemma dressed_inStep {f : Reply → Reply} (hf : HeadOnly f) {reply reply' : Reply} (h : Answered P reply reply') :
    InStep P (ToldReply P) (g.dressed r (f reply)).deliver (g.dressed r (f reply')).deliver := by
  have hbody : ∀ reply, (f reply).body = reply.body := by
    obtain ⟨F, hF⟩ := hf
    exact fun reply => by rw [hF]
  cases h with
  | same writes =>
    unfold Reply.deliver
    split
    · exact .done (.same _)
    · rename_i writer hwriter
      have hwrites := writes writer ((hbody reply).symm.trans (Service.dressed_writer hwriter))
      exact hwrites.bind fun _ _ _ => .done (.same _)
  | @failed head e e' failures =>
    obtain ⟨F, hF⟩ := headOnly_withAllow.comp (headOnly_withOrigin.comp hf)
    have hdressed : ∀ d, g.dressed r (f ⟨head, backendBody d⟩) = Service.withMethod r ⟨F head, backendBody d⟩ :=
      fun d => congrArg (Service.withMethod r) (hF ⟨head, backendBody d⟩)
    have hwhole : ∀ head d, (Reply.mk head (backendBody d)).IsWhole := fun _ _ => ⟨_, rfl⟩
    rw [hdressed, hdressed]
    unfold Service.withMethod
    split
    · have hhead : ∀ d, (Reply.mk (F head) (backendBody d)).headOnly = ⟨F head, .whole ""⟩ := fun _ => rfl
      rw [hhead, hhead]
      exact .done (.same _)
    · rw [(hwhole _ e).deliver, (hwhole _ e').deliver]
      exact .done (.failed _ failures)

lemma answer_inStep (hP : Kindred P) {f : Reply → Reply} (hf : HeadOnly f) :
    InStep P (ToldReply P) (g.answer r f) (g.answer r f) :=
  (dispatch_inStep hP).bind fun _ _ h => dressed_inStep hf h

/-- Whatever is asked for, two exchanges differ at most in what they tell of failures of the backend. -/
lemma exchange_inStep (hP : Kindred P) : InStep P (ToldReply P) (g.exchange r) (g.exchange r) := by
  by_cases hmethod : r.method = "OPTIONS"
  · rw [Service.exchange_preflight hmethod]
    exact .done (.same _)
  · cases hexempt : g.exemptPaths.contains r.path with
    | true =>
      rw [Service.exchange_exempt hmethod hexempt]
      exact answer_inStep hP headOnly_id
    | false =>
      rw [Service.exchange_counted hmethod hexempt]
      refine .call fun x x' h => ?_
      have hdecision : g.policy.decide x' = g.policy.decide x := by cases h <;> rfl
      rw [hdecision]
      split
      · exact answer_inStep hP (headOnly_withDecision _)
      · exact .done (.same _)

/-! ### What a client is told -/

variable {σ τ : Type}

/-- The events written in two runs in step are the same, or tell of related failures. -/
lemma emitted_inStep {t : List (Program.Event σ)} {t' : List (Program.Event τ)}
    (h : List.Forall₂ (Event.Paired (Muffled P) (ToldEvent P)) t t') :
    List.Forall₂ (Relation.ReflGen (ToldEvent P)) (t.filterMap emitted?) (t'.filterMap emitted?) := by
  refine List.rel_filterMap (R := Event.Paired (Muffled P) (ToldEvent P)) ?_ h
  intro x x' hpaired
  cases hpaired with
  | @call c a a' m m' answers =>
    cases c with
    | emit e =>
      obtain rfl : a = a' := answers
      cases a with
      | ok _ => exact .some .refl
      | error _ => exact .none
    | _ => exact .none
  | @emit e e' a m m' told =>
    cases a with
    | ok _ => exact .some (.single told)
    | error _ => exact .none

lemma kindred_eq : Kindred Eq := ⟨fun _ => rfl, fun h => congrArg ProviderError.blank h⟩

lemma kindred_kin : Kindred ProviderError.Kin := ⟨fun _ => rfl, id⟩

/-- What the client of a request is told of failures. -/
structure Discreet (g : Service) (r : Http.Request) : Prop where
  /-- Of failures other than the backend's nothing depends on what they say. -/
  withheld : ∀ {σ τ : Type} (κ : Conduct σ) (κ' : Conduct τ) s t x m s' t' x' m', Runs κ (g.exchange r) s t x m →
    Runs κ' (g.exchange r) s' t' x' m' → Concur (Muffled Eq) t t' →
    x' = x ∧ t'.filterMap emitted? = t.filterMap emitted?
  /-- Of failures of the backend the message is told, as the body of a reply or as an event; all else is the same. -/
  told : ∀ {σ τ : Type} (κ : Conduct σ) (κ' : Conduct τ) s t x m s' t' x' m', Runs κ (g.exchange r) s t x m →
    Runs κ' (g.exchange r) s' t' x' m' → Concur (Muffled ProviderError.Kin) t t' →
    Option.Rel (ToldReply ProviderError.Kin) x x' ∧
      List.Forall₂ (Relation.ReflGen (ToldEvent ProviderError.Kin)) (t.filterMap emitted?) (t'.filterMap emitted?)

/-- Whatever is asked for, clients are told of failures with discretion, but for those of the backend. -/
theorem discreet (g : Service) (r : Http.Request) : Discreet g r where
  withheld := by
    intro σ τ κ κ' s t x m s' t' x' m' hrun hrun' hconcur
    obtain ⟨hpaired, hreplies⟩ := (exchange_inStep kindred_eq).runs hrun hrun' hconcur
    refine ⟨?_, ?_⟩
    · cases hreplies with
      | none => rfl
      | some told =>
        cases told with
        | same reply => rfl
        | failed head failures => rw [failures]
    · have hevents : Relation.ReflGen (ToldEvent Eq) = Eq := by
        funext e e'
        refine propext ⟨?_, fun h => h ▸ .refl⟩
        rintro (_ | ⟨⟨failures⟩⟩)
        · rfl
        · rw [failures]
      have hemitted := emitted_inStep hpaired
      rw [hevents, List.forall₂_eq_eq_eq] at hemitted
      exact hemitted.symm
  told _ _ _ _ _ _ _ _ _ _ hrun hrun' hconcur := by
    obtain ⟨hpaired, hreplies⟩ := (exchange_inStep kindred_kin).runs hrun hrun' hconcur
    exact ⟨hreplies, emitted_inStep hpaired⟩

/-! Two ways for a store to fail, and two for a backend. -/

/-- A store in memory that cannot list conversations. -/
def unlisted (e : StoreError) : Handler Store.Memory
  | .listConversations _ _, s => (.error e, s)
  | c, s => Store.Memory.steady ⟨"", "", "", none, none⟩ ⟨[], .finished⟩ c s

/-- Alice asks for her conversations. -/
def listingRequest : Http.Request := { brokenRequest with method := "GET", path := "/api/v1/conversations", body := [] }

theorem discreet_unlisted : Discreet smallService listingRequest ∧
    ((smallService.exchange listingRequest).run (unlisted (.queryFailed "no such table")) .empty).1 =
      ((smallService.exchange listingRequest).run (unlisted (.storage "disk 7 is full")) .empty).1 ∧
    (((smallService.exchange listingRequest).run (unlisted (.storage "disk 7 is full")) .empty).1.map (·.head.status)) =
      some 500 := by
  have hrun (e : StoreError) := record_runs (κ := fun c s a s' => unlisted e c s = (a, s')) (h := unlisted e)
    (fun _ _ => rfl) (smallService.exchange listingRequest) .empty
  have hconcur : Concur (Muffled Eq)
      ((smallService.exchange listingRequest).record (unlisted (.storage "disk 7 is full")) .empty).1
      ((smallService.exchange listingRequest).record (unlisted (.queryFailed "no such table")) .empty).1 := by
    refine (exchange_inStep kindred_eq).record Iff.rfl (R := Eq) ?_ (fun _ _ _ _ h => ⟨rfl, h⟩) rfl
    rintro c m _ rfl
    cases c with
    | listConversations p n => exact ⟨.error trivial, rfl⟩
    | _ => exact ⟨Muffled.refl kindred_eq.refl _ _, rfl⟩
  have hdiscreet := discreet smallService listingRequest
  refine ⟨hdiscreet, ?_, ?_⟩
  · rw [← record_result, ← record_result]
    exact (hdiscreet.withheld _ _ _ _ _ _ _ _ _ _ (hrun (.storage "disk 7 is full")) (hrun (.queryFailed "no such table"))
      hconcur).1
  · have hcaller : smallService.caller listingRequest = .ok ⟨"alice"⟩ := broken_caller
    have hdispatch : smallService.dispatch listingRequest = conversations ⟨"alice"⟩ := by
      have hroute : Route.ofPath? listingRequest.path = some .conversations := by decide
      simp only [Service.dispatch, hroute, Service.onRoute, hcaller]
      rfl
    rw [Service.exchange, Service.serve, hdispatch]
    rfl

/-- A backend whose streams fail at once, beside a store in memory and a client that stays. -/
def overloaded (e : ProviderError) : Handler Store.Memory :=
  Store.Memory.steady ⟨"", "", "", none, none⟩ ⟨[], .failed e⟩

/-- Two exchanges differ in the body of the backend's response only, and the client can tell them apart. -/
theorem overload_told : ∃ t x m t' x' m',
    Runs (fun c s a s' => overloaded (.api 503 "db-7 is down") c s = (a, s')) (smallService.exchange brokenRequest)
      .empty t x m ∧
    Runs (fun c s a s' => overloaded (.api 503 "") c s = (a, s')) (smallService.exchange brokenRequest)
      .empty t' x' m' ∧
    Concur (Muffled ProviderError.Kin) t t' ∧ t.filterMap emitted? ≠ t'.filterMap emitted? := by
  have hrun (e : ProviderError) := record_runs (κ := fun c s a s' => overloaded e c s = (a, s')) (h := overloaded e)
    (fun _ _ => rfl) (smallService.exchange brokenRequest) .empty
  refine ⟨_, _, _, _, _, _, hrun _, hrun _, ?_, ?_⟩
  · refine (exchange_inStep kindred_kin).record Iff.rfl (R := Eq) ?_ (fun _ _ _ _ h => ⟨rfl, h⟩) rfl
    rintro c m _ rfl
    cases c with
    | openFeed q => exact ⟨.failed [] rfl, rfl⟩
    | _ => exact ⟨Muffled.refl kindred_kin.refl _ _, rfl⟩
  · rw [Service.exchange, Service.serve, Service.dispatch_stream rfl rfl broken_caller broken_read rfl]
    decide +kernel

end Gateway
end CompletionGateway
