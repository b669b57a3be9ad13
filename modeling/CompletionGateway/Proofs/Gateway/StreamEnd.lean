import CompletionGateway.Gateway.Service
import CompletionGateway.Proofs.EventStream.Bodies
import CompletionGateway.Proofs.Gateway.Delivery
import CompletionGateway.Proofs.Store.Memory

/-! Every stream that is opened comes to an end that its client can tell. Whatever store and backend do, a request for a
stream is refused as a whole if its prompt is no good. Otherwise the client is told every frame, then of the failure if
there was one other than a cancelled request, and at the very end the end mark. -/
namespace CompletionGateway
open Program EventStream

/-- Setting a header leaves the others. -/
lemma Http.Head.get?_set_of_ne (h : Head) {name name' : String} (hne : name' ≠ name) (value : String) :
    (h.set name' value).get? name = h.get? name := by
  have hkept : (h.headers.filter (·.1 ≠ name')).find? (·.1 = name) = h.headers.find? (·.1 = name) := by
    rw [List.find?_filter]
    refine List.find?_congr fun e _ => ?_
    by_cases he : e.1 = name <;> simp [he, hne.symm]
  rw [get?, set, List.find?_append, hkept, List.find?_singleton]
  simp [hne, get?]

namespace Gateway
open Orchestrator
variable {σ : Type} {κ : Conduct σ} {out : σ → Emitter} {o : Orchestrator} {p : Principal} {q : PipelineRequest}
  {s s' : σ}

/-! ### The pipeline -/

/-- The result of a streamed answer in a conversation. -/
def streamResult (id : ConversationId) : Except ProviderError String → Except PipelineError ConversationId
  | .ok _ => .ok id
  | .error e => .error (streamFailure e)

/-- The frames that a run of the pipeline hands to a client that stays, and its result: no frame if the request is
refused before the backend is asked, and otherwise one for each chunk of the feed. -/
inductive Streamed (κ : Conduct σ) (o : Orchestrator) (p : Principal) (q : PipelineRequest) (s : σ) :
    List (Program.Event σ) → List StreamFrame → Option (Except PipelineError ConversationId) → Prop
  | refused {t e m} (h : RefusedRun κ o p q s t e m) : Streamed κ o p q s t [] (some (.error e))
  | fed {t id ms m feed m' t'} (ready : ReadyRun κ o p q s t id ms m)
      (opened : κ (.openFeed (o.requestFor q ms)) m feed m') :
      Streamed κ o p q s (t ++ ⟨.openFeed (o.requestFor q ms), feed, m'⟩ :: t') (feed.chunks.map (·.frame id))
        (feed.result.map (streamResult id))

/-- The pipeline as it writes to the client. -/
abbrev streaming (o : Orchestrator) (p : Principal) (q : PipelineRequest) : Attempt ConversationId :=
  o.stream (fun f => perform (.emit (.ofFrame f))) p q

/-- What is known once the backend has been asked, whatever is put on record behind that. -/
lemma Delivers.fed (h : Delivers κ out) (hs : (out s).connected = true) {t id ms m} {feed : Feed} {m' t' x k}
    {t'' : List (Program.Event σ)} (ready : ReadyRun κ o p q s t id ms m)
    (opened : κ (.openFeed (o.requestFor q ms)) m feed m')
    (relayed : Runs κ (relayFeed (fun f => perform (.emit (.ofFrame f))) id feed) m' t' x k)
    (hrest : t''.filterMap emitted? = []) :
    Streamed κ o p q s (t ++ ⟨.openFeed (o.requestFor q ms), feed, m'⟩ :: (t' ++ t'')) (feed.chunks.map (·.frame id))
        (x.map (streamResult id)) ∧
      (t ++ ⟨.openFeed (o.requestFor q ms), feed, m'⟩ :: (t' ++ t'')).filterMap emitted? =
        (feed.chunks.map (·.frame id)).map .ofFrame := by
  have hm : (out m').connected = true := by rw [h.connected opened, h.ready_connected ready, hs]
  obtain ⟨rfl, hrelayed⟩ := h.runs_relayFeed hm relayed
  refine ⟨.fed ready opened, ?_⟩
  rw [List.filterMap_append, preparing_emitted ready.preparing, List.filterMap_cons, List.filterMap_append, hrelayed,
    hrest, List.append_nil, List.map_map]
  rfl

lemma endStream_error {e : PipelineError} (h : e ≠ .cancelled) :
    endStream (.error e) = Program.bind (emit (.ofFailure e.clientMessage)) fun _ => emit .ending := by
  cases e <;> first | rfl | exact absurd rfl h

/-- A reply that says the same as another and may say more in its head. -/
structure Adds (r r' : Reply) : Prop where
  status : r'.head.status = r.head.status
  type : r'.head.get? "content-type" = r.head.get? "content-type"
  body : r'.body = r.body

namespace Adds

lemma refl (r : Reply) : Adds r r := ⟨rfl, rfl, rfl⟩

lemma set {r r' : Reply} (h : Adds r r') {name : String} (hne : name ≠ "content-type") (value : String) :
    Adds r (r'.set name value) := ⟨h.status, (r'.head.get?_set_of_ne hne value).trans h.type, h.body⟩

lemma withDecision {r r' : Reply} (h : Adds r r') (d : Admission.Decision) : Adds r (Service.withDecision d r') := by
  have hcounts := (h.set (show "x-ratelimit-limit" ≠ "content-type" by decide) (toString d.limit.toNat)).set
    (show "x-ratelimit-remaining" ≠ "content-type" by decide) (toString d.remaining.toNat)
  unfold Service.withDecision
  dsimp only
  split
  · exact hcounts.set (by decide) _
  · exact hcounts

lemma withOrigin {r r' : Reply} (h : Adds r r') (g : Service) (request : Http.Request) :
    Adds r (g.withOrigin request r') := by
  have hvary := h.set (show "vary" ≠ "content-type" by decide)
    "origin, access-control-request-method, access-control-request-headers"
  unfold Service.withOrigin
  dsimp only
  split
  · exact hvary.set (by decide) _
  · exact hvary

end Adds

/-- Admission control lets a request through. -/
def admits (policy : Admission.Policy) : Program.Event σ → Bool
  | ⟨.hit _ _, answer, _⟩ => (policy.decide answer).admitted
  | _ => true

/-- The reply to a request for a stream. -/
def streamReply (o : Orchestrator) (p : Principal) (q : PipelineRequest) : Reply :=
  match o.validate q with
  | .error e => Reply.ofError e
  | .ok () => ⟨Reply.eventHead, .events (writeStream o p q)⟩

lemma validate_status {e : PipelineError} (h : o.validate q = .error e) : e.status = 400 := by
  unfold Orchestrator.validate Prompt.check at h
  split at h
  · cases h
    rfl
  · split at h
    · cases h
      rfl
    · cases h

namespace Service
variable {g : Service} {r : Http.Request}

lemma route_complete (hpath : r.path = "/api/v1/inference/complete") : Route.ofPath? r.path = some .complete := by
  rw [hpath]
  decide

lemma complete_methods (hpost : r.method = "POST") : Route.complete.methods.contains r.method = true := by
  rw [hpost]
  decide

lemma dispatch_stream (hpost : r.method = "POST") (hpath : r.path = "/api/v1/inference/complete")
    (hcaller : g.caller r = .ok p) (hread : readRequest g.bodyLimit r = .ok q) (hstream : q.stream = true) :
    g.dispatch r = .done (streamReply g.orchestrator p q) := by
  have hprincipal : Route.complete.needsPrincipal = true := rfl
  rw [dispatch, route_complete hpath]
  dsimp only
  rw [onRoute, if_pos hprincipal, hcaller]
  dsimp only
  rw [if_pos (complete_methods hpost), handle]
  simp only [complete, hread, hstream, if_true, streamReply]
  cases g.orchestrator.validate q <;> rfl

lemma runs_withAdmission {reply : Reply} {t x} (hrun : Runs κ (g.withAdmission r (.done reply)) s t x s')
    (hadmitted : ∀ e ∈ t, admits g.policy e = true) : ∃ reply', x = some reply' ∧ Adds reply reply' := by
  unfold withAdmission at hrun
  split at hrun
  · obtain ⟨-, rfl, -⟩ := runs_done.mp hrun
    exact ⟨reply, rfl, .refl reply⟩
  · obtain ⟨answer, m, t', -, hrest, rfl⟩ := runs_perform_bind.mp hrun
    have hadmits : (g.policy.decide answer).admitted = true := hadmitted _ List.mem_cons_self
    rw [if_pos hadmits] at hrest
    obtain ⟨-, rfl, -⟩ := runs_done.mp hrest
    exact ⟨_, rfl, (Adds.refl reply).withDecision _⟩

end Service

/-! A stream that breaks off. The backend sends one chunk, and then its connection is reset. -/

def brokenQuery : PipelineRequest := ⟨"Hello", none, true, none, none, none⟩

def brokenRequest : Http.Request :=
  ⟨"POST", "/api/v1/inference/complete", none,
    [("authorization", Text.utf8 "Bearer secret"), ("content-type", Text.utf8 "application/json")],
    Text.utf8 brokenQuery.toJson.text, none⟩

/-- A service with one caller, who may ask once. -/
def smallService : Service :=
  ⟨⟨.none, 1, 100, ⟨"m", default, 0⟩, 0⟩, false, ⟨1, 0⟩, ⟨[("secret", "alice")]⟩, [], brokenRequest.body.length, []⟩

lemma headerText?_utf8 {s : String} (h : (Text.utf8 s).all Http.isVisible = true) :
    Http.headerText? (Text.utf8 s) = some s := by
  rw [Http.headerText?, if_pos h, Text.decodeLossy_utf8]

lemma broken_caller : smallService.caller brokenRequest = .ok ⟨"alice"⟩ := by
  have hheader : brokenRequest.header? "authorization" = some (Text.utf8 "Bearer secret") := rfl
  have htoken : Service.token brokenRequest = .ok "secret" := by
    rw [Service.token, hheader]
    dsimp only
    rw [headerText?_utf8 (by decide)]
    decide
  rw [Service.caller, htoken]
  rfl

lemma broken_read : readRequest smallService.bodyLimit brokenRequest = .ok brokenQuery := by
  have hjson : hasJsonBody brokenRequest = true := by
    have hheader : (brokenRequest.header? "content-type").bind Http.headerText? =
        Http.headerText? (Text.utf8 "application/json") := rfl
    rw [hasJsonBody, hheader, headerText?_utf8 (by decide)]
    decide
  have hbody : Json.decodeBytes PipelineRequest.ofTree? brokenRequest.body = some brokenQuery := by
    rw [show brokenRequest.body = Text.utf8 brokenQuery.toJson.text from rfl, Json.decodeBytes_text]
    rfl
  have hlength : ¬ smallService.bodyLimit < brokenRequest.body.length := Nat.lt_irrefl _
  simp [readRequest, hjson, hbody, hlength]

end Gateway
end CompletionGateway
