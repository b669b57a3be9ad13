import CompletionGateway.Gateway.Rehearsal
import CompletionGateway.Proofs.Gateway.StreamEnd
import CompletionGateway.Proofs.Pipeline.History
import CompletionGateway.Proofs.Program.Parts

/-! Nothing is done for nobody. Whatever a request says, the gateway reads or changes what is stored and asks the
backend only after admission control has let the request in and a bearer token has named its caller, and then only by
the operation that the request asks for, run for that caller. -/
namespace CompletionGateway
open Program Gateway

/-- The operation as the gateway runs it. The frames of a stream are written to the client. -/
def Operation.written (o : Orchestrator) : (op : Operation) → Attempt op.Answer
  | .complete p q => o.complete p q
  | .stream p q => streaming o p q
  | .listMessages p id => Orchestrator.listMessages p id
  | .listConversations p => Orchestrator.listConversations p

namespace Gateway
variable {σ : Type} {κ : Conduct σ} {s m : σ} {t : List (Program.Event σ)}

/-- Calls that read or change what is stored, or ask the backend. -/
def Touches : Call → Prop
  | .findConversation _ => True
  | .createConversation _ => True
  | .appendMessage _ => True
  | .listMessages _ => True
  | .listConversations _ _ => True
  | .readCache _ => True
  | .writeCache _ _ _ => True
  | .complete _ => True
  | .openFeed _ => True
  | _ => False

/-- No call of a trace touches anything. -/
def Idle (t : List (Program.Event σ)) : Prop := ∀ e ∈ t, ¬ Touches e.call

lemma idle_nil : Idle ([] : List (Program.Event σ)) := by simp [Idle]

lemma idle_append {t' : List (Program.Event σ)} : Idle (t ++ t') ↔ Idle t ∧ Idle t' := List.forall_mem_append

/-- The conduct of the service's own collaborators, whatever lies outside. -/
def housed (outside : Collaborators.Outside σ) : Conduct (Collaborators × σ) :=
  fun c x a x' => Collaborators.handle outside c x = (a, x')

/-- Two states that differ at most in what is stored. -/
structure Alike (x y : Collaborators × σ) : Prop where
  windows : y.1.windows = x.1.windows
  emitter : y.1.emitter = x.1.emitter
  now : y.1.now = x.1.now
  outside : y.2 = x.2
  database : y.1.store.ping = x.1.store.ping
  cache : y.1.cache.ping = x.1.cache.ping

/-- Calls that touch nothing leave store and cache as they are. -/
lemma housed.keeps {outside : Collaborators.Outside σ} {c : Call} {x a x'} (h : housed outside c x a x')
    (hc : ¬ Touches c) : x'.1.store = x.1.store ∧ x'.1.cache = x.1.cache := by
  obtain rfl : (Collaborators.handle outside c x).2 = x' := congrArg Prod.snd h
  cases c <;> first | exact ⟨rfl, rfl⟩ | exact absurd trivial hc

/-- Calls that touch nothing do not tell what is stored. -/
lemma housed.alike {outside : Collaborators.Outside σ} {c : Call} {x y a b x' y'} (hxy : Alike x y)
    (h : housed outside c x a x') (h' : housed outside c y b y') (hc : ¬ Touches c) : b = a ∧ Alike x' y' := by
  obtain ⟨⟨store, cache, windows, emitter, now⟩, k⟩ := x
  obtain ⟨⟨store', cache', _, _, _⟩, _⟩ := y
  obtain ⟨rfl, rfl, rfl, rfl, hdatabase, hcache⟩ := hxy
  obtain ⟨rfl, rfl⟩ := Prod.mk.inj h
  obtain ⟨rfl, rfl⟩ := Prod.mk.inj h'
  cases c with
  | pingStore => exact ⟨hdatabase, rfl, rfl, rfl, rfl, hdatabase, hcache⟩
  | pingCache => exact ⟨hcache, rfl, rfl, rfl, rfl, hdatabase, hcache⟩
  | _ => first | exact ⟨rfl, rfl, rfl, rfl, rfl, hdatabase, hcache⟩ | exact absurd trivial hc

lemma Idle.keeps {α : Type} {outside : Collaborators.Outside σ} {program rest : Program α} {x x'}
    {t : List (Program.Event (Collaborators × σ))} (ht : Idle t) (h : Reaches (housed outside) program x t rest x') :
    x'.1.store = x.1.store ∧ x'.1.cache = x.1.cache := by
  induction h with
  | start => exact ⟨rfl, rfl⟩
  | call before answer ih =>
    obtain ⟨hbefore, hlast⟩ := idle_append.mp ht
    obtain ⟨hstore, hcache⟩ := answer.keeps (hlast _ List.mem_cons_self)
    exact ⟨hstore.trans (ih hbefore).1, hcache.trans (ih hbefore).2⟩

/-- A run that touches nothing does not tell what is stored. -/
lemma Idle.alike {α : Type} {outside : Collaborators.Outside σ} {program : Program α} {x y r r' x' y'}
    {t u : List (Program.Event (Collaborators × σ))} (ht : Idle t) (hxy : Alike x y)
    (h : Runs (housed outside) program x t r x') (h' : Runs (housed outside) program y u r' y') :
    r' = r ∧ Alike x' y' := by
  induction h generalizing y u with
  | done a x =>
    obtain ⟨-, rfl, rfl⟩ := runs_done.mp h'
    exact ⟨rfl, hxy⟩
  | stuck x =>
    obtain ⟨-, rfl, rfl⟩ := runs_stuck.mp h'
    exact ⟨rfl, hxy⟩
  | call answer tail ih =>
    obtain ⟨b, k, u', answer', tail', rfl⟩ := runs_call.mp h'
    obtain ⟨hc, hrest⟩ := List.forall_mem_cons.mp ht
    obtain ⟨rfl, hk⟩ := housed.alike hxy answer answer' hc
    exact ih hrest hk tail'

/-- The body of the reply is not written event by event. -/
def Reply.IsWhole (reply : Reply) : Prop := ∃ text, reply.body = .whole text

/-- Write the body of a reply. -/
def Reply.deliver (reply : Reply) : Program Reply :=
  match reply.body with
  | .whole _ => .done reply
  | .events writer => Program.bind writer fun _ => .done reply

lemma Reply.IsWhole.not_events {reply : Reply} {writer : Program Unit} (h : reply.IsWhole) :
    reply.body ≠ .events writer := by
  obtain ⟨text, h⟩ := h
  rw [h]
  exact nofun

lemma Reply.IsWhole.deliver {reply : Reply} (h : reply.IsWhole) : reply.deliver = .done reply := by
  obtain ⟨text, h⟩ := h
  rw [Reply.deliver, h]

namespace Service

/-- Answer a request and write the body of the answer. -/
def exchange (g : Service) (r : Http.Request) : Program Reply := Program.bind (g.serve r) Reply.deliver

/-- A request names its caller by a bearer token: its first authorization header is `Bearer` and a token which, the
blanks around it left out, is the caller's. -/
def Vouches (g : Service) (r : Http.Request) (p : Principal) : Prop :=
  ∃ value token, r.header? "authorization" = some value ∧ Http.headerText? value = some ("Bearer " ++ token) ∧
    g.tokens.find? (Text.trim token) = some p.name

/-- What admission control asks of a request that is let in. -/
inductive LetIn (g : Service) (r : Http.Request) : List (Program.Event σ) → Prop
  | exempt (path : g.exemptPaths.contains r.path = true) : LetIn g r []
  | admitted {answer m} (room : (g.policy.decide answer).admitted = true) :
      LetIn g r [⟨.hit (windowKey r) g.policy, answer, m⟩]

/-- The operation that a request asks for on a route, for a caller. -/
inductive Asks (g : Service) (r : Http.Request) (p : Principal) : Route → Operation → Prop
  | whole {q} (read : readRequest g.bodyLimit r = .ok q) (whole : q.stream = false) : Asks g r p .complete (.complete p q)
  | streamed {q} (read : readRequest g.bodyLimit r = .ok q) (streamed : q.stream = true)
      (valid : g.orchestrator.validate q = .ok ()) : Asks g r p .complete (.stream p q)
  | conversations : Asks g r p .conversations (.listConversations p)
  | messages {encoded text id} (decoded : Text.Utf8.decode? (Http.percentDecode (Text.utf8 encoded)) = some text)
      (parsed : ConversationId.parse? text = some id) : Asks g r p (.messages encoded) (.listMessages p id)
  | messagesByQuery {text id}
      (named : ((Http.queryFields (r.query.getD "")).filter (·.1 = "conversation_id")).map (·.2) = [text])
      (parsed : ConversationId.parse? text = some id) : Asks g r p .messagesByQuery (.listMessages p id)

/-- The request names a caller and asks for an operation on a route by one of its methods. -/
inductive Entitles (g : Service) (r : Http.Request) (p : Principal) (op : Operation) : Prop
  | mk {route} (vouched : g.Vouches r p) (routed : Route.ofPath? r.path = some route)
      (method : route.methods.contains r.method = true) (asked : g.Asks r p route op)

/-- The calls are those of the operation that the request asks for, as far as it went, behind admission control and in
front of what ends a stream. -/
inductive Authorized (κ : Conduct σ) (g : Service) (r : Http.Request) : List (Program.Event σ) → Prop
  | mk {p op t₁ u t₂ m rest m'} (entitled : g.Entitles r p op) (letIn : g.LetIn r t₁)
      (run : Reaches κ (op.written g.orchestrator) m u rest m') (ending : ∀ e ∈ t₂, ∃ event, e.call = .emit event) :
      Authorized κ g r (t₁ ++ u ++ t₂)

/-- What the gateway does with a request, and for whom. -/
structure Guarded (g : Service) (r : Http.Request) : Prop where
  /-- Whatever collaborators do and however far the gateway goes, what it touches it touches with authority. -/
  touched : ∀ {σ : Type} (κ : Conduct σ) s t rest m, Reaches κ (g.exchange r) s t rest m →
    ∀ e ∈ t, Touches e.call → g.Authorized κ r t
  /-- What is stored changes with authority only. -/
  changed : ∀ {σ : Type} (outside : Collaborators.Outside σ) x t rest x',
    Reaches (housed outside) (g.exchange r) x t rest x' → x'.1.store ≠ x.1.store ∨ x'.1.cache ≠ x.1.cache →
    g.Authorized (housed outside) r t
  /-- Without authority, the answer is the same whatever is stored. -/
  told : ∀ {σ : Type} (outside : Collaborators.Outside σ) x t reply x', Runs (housed outside) (g.exchange r) x t reply x' →
    ¬ g.Authorized (housed outside) r t → ∀ y u reply' y', Alike x y →
    Runs (housed outside) (g.exchange r) y u reply' y' → reply' = reply ∧ y'.1.emitter = x'.1.emitter
  /-- The caller is told by the first authorization header and by nothing else. -/
  caller : ∀ p r' p', r'.header? "authorization" = r.header? "authorization" → g.Vouches r p → g.Vouches r' p' → p = p'
  /-- A request that is let in but names no caller is refused on every route that needs one. -/
  refused : ∀ route, Route.ofPath? r.path = some route → route.needsPrincipal = true →
    route.methods.contains r.method = true → (∀ p, ¬ g.Vouches r p) →
    ∀ {σ : Type} (κ : Conduct σ) s t x m, Runs κ (g.exchange r) s t x m → (∀ e ∈ t, admits g.policy e = true) →
    Idle t ∧ ∃ reply, x = some reply ∧ reply.head.status = 401

variable {g : Service} {r : Http.Request} {p : Principal}

/-! ### Callers -/

lemma take_bearer_iff {text : String} :
    text.toList.take bearer.length = bearer ↔ ∃ rest, text = "Bearer " ++ rest := by
  constructor
  · intro h
    refine ⟨String.ofList (text.toList.drop bearer.length), ?_⟩
    rw [← String.toList_inj, String.toList_append, String.toList_ofList]
    nth_rewrite 1 [← List.take_append_drop bearer.length text.toList]
    rw [h, String.toList_ofList]
    rfl
  · rintro ⟨rest, rfl⟩
    rw [String.toList_append]
    rfl

lemma token_eq_ok_iff {token : String} : Service.token r = .ok token ↔
    ∃ value rest, r.header? "authorization" = some value ∧ Http.headerText? value = some ("Bearer " ++ rest) ∧
      token = Text.trim rest := by
  unfold Service.token
  cases hheader : r.header? "authorization" with
  | none => simp
  | some value =>
    dsimp only
    split
    · rename_i hbearer
      obtain ⟨rest, htext⟩ := take_bearer_iff.mp hbearer
      have hvisible : Http.headerText? value = some ("Bearer " ++ rest) := by
        cases hvalue : Http.headerText? value with
        | none =>
          rw [hvalue] at hbearer
          exact absurd hbearer (by decide)
        | some text =>
          rw [hvalue] at htext
          rw [← htext]
          rfl
      have hrest : String.ofList ((Http.headerText? value).getD "" |>.toList.drop bearer.length) = rest := by
        rw [htext, String.toList_append, ← String.toList_inj, String.toList_ofList]
        rfl
      rw [hrest, Except.ok.injEq]
      constructor
      · rintro rfl
        exact ⟨value, rest, rfl, hvisible, rfl⟩
      · rintro ⟨value', rest', hvalue, htext', rfl⟩
        obtain rfl := Option.some.inj hvalue
        rw [hvisible, Option.some.injEq, ← String.toList_inj, String.toList_append, String.toList_append,
          List.append_cancel_left_eq, String.toList_inj] at htext'
        rw [htext']
    · rename_i hbearer
      refine ⟨fun h => (nomatch h), ?_⟩
      rintro ⟨value', rest, hvalue, htext, -⟩
      obtain rfl := Option.some.inj hvalue
      exact absurd (take_bearer_iff.mpr ⟨rest, by rw [htext, Option.getD_some]⟩) hbearer

/-- The gateway takes for the caller whom the request's token names. -/
lemma caller_eq_ok_iff : g.caller r = .ok p ↔ g.Vouches r p := by
  have hname : ∀ name, Except.ok (ε := AuthFault) (⟨name⟩ : Principal) = .ok p ↔ name = p.name := by
    intro name
    obtain ⟨n⟩ := p
    simp
  unfold caller Vouches
  cases htoken : Service.token r with
  | error fault =>
    refine ⟨fun h => (nomatch h), ?_⟩
    rintro ⟨value, token, hheader, htext, -⟩
    rw [token_eq_ok_iff.mpr ⟨value, token, hheader, htext, rfl⟩] at htoken
    cases htoken
  | ok token =>
    obtain ⟨value, rest, hheader, htext, rfl⟩ := token_eq_ok_iff.mp htoken
    have hvouches : (∃ value' token, r.header? "authorization" = some value' ∧
        Http.headerText? value' = some ("Bearer " ++ token) ∧ g.tokens.find? (Text.trim token) = some p.name) ↔
          g.tokens.find? (Text.trim rest) = some p.name := by
      constructor
      · rintro ⟨value', token, hheader', htext', hfind⟩
        have heq := token_eq_ok_iff.mpr ⟨value', token, hheader', htext', rfl⟩
        rw [Except.ok.inj (htoken.symm.trans heq)]
        exact hfind
      · exact fun hfind => ⟨value, rest, hheader, htext, hfind⟩
    rw [hvouches]
    dsimp only
    cases g.tokens.find? (Text.trim rest) with
    | none => simp
    | some name => simp [hname]

lemma Vouches.unique {r' : Http.Request} {p' : Principal}
    (hheader : r'.header? "authorization" = r.header? "authorization") (h : g.Vouches r p) (h' : g.Vouches r' p') :
    p = p' := by
  have hcaller : g.caller r' = g.caller r := by rw [caller, caller, Service.token, Service.token, hheader]
  exact Except.ok.inj ((caller_eq_ok_iff.mpr h).symm.trans (hcaller.symm.trans (caller_eq_ok_iff.mpr h')))

/-! ### What a route does -/

/-- How far a route has gone: it has touched nothing, it runs the operation that was asked for, or it is about to open
a stream. A body is written event by event in the last case only. -/
inductive Dispatched (κ : Conduct σ) (g : Service) (r : Http.Request) (s : σ) :
    List (Program.Event σ) → Program Reply → σ → Prop
  | idle {t rest m} (idle : Idle t) (whole : ∀ reply, rest = .done reply → reply.IsWhole) : Dispatched κ g r s t rest m
  | operating {p op t rest rest' m} (entitled : g.Entitles r p op)
      (run : Reaches κ (op.written g.orchestrator) s t rest' m) (whole : ∀ reply, rest = .done reply → reply.IsWhole) :
      Dispatched κ g r s t rest m
  | opening {p q} (entitled : g.Entitles r p (.stream p q)) :
      Dispatched κ g r s [] (.done ⟨Reply.eventHead, .events (writeStream g.orchestrator p q)⟩) s

/-- A route that answers at once with a whole body. -/
lemma Dispatched.refused {reply : Reply} (hwhole : reply.IsWhole) {rest} (h : Reaches κ (.done reply) s t rest m) :
    Dispatched κ g r s t rest m := by
  obtain ⟨rfl, rfl, rfl⟩ := reaches_done h
  refine .idle idle_nil ?_
  rintro _ ⟨⟩
  exact hwhole

/-- A route that runs an operation and answers with a whole body. -/
lemma Dispatched.answered {op : Operation} (entitled : g.Entitles r p op)
    {f : Except PipelineError op.Answer → Program Reply} (hf : ∀ x, ∃ reply, f x = .done reply ∧ reply.IsWhole) {rest}
    (h : Reaches κ ((op.written g.orchestrator).bind f) s t rest m) : Dispatched κ g r s t rest m := by
  obtain ⟨rest', run, hdone⟩ := reaches_bind_done (fun x => (hf x).imp fun _ h => h.1) h
  refine .operating entitled run ?_
  intro reply hreply
  obtain ⟨x, -, hx⟩ := hdone reply hreply
  obtain ⟨reply', hreply', hwhole⟩ := hf x
  cases hreply'.symm.trans hx
  exact hwhole

lemma dispatched_complete {route : Route} (hroute : route = .complete)
    (hentitles : ∀ {op}, g.Asks r p route op → g.Entitles r p op) {rest}
    (h : Reaches κ (complete g.orchestrator g.bodyLimit p r) s t rest m) : Dispatched κ g r s t rest m := by
  subst hroute
  unfold Gateway.complete at h
  split at h
  · rename_i fault _
    exact .refused (by cases fault <;> exact ⟨_, rfl⟩) h
  · rename_i q hread
    split at h
    · rename_i hstream
      split at h
      · exact .refused ⟨_, rfl⟩ h
      · rename_i hvalid
        obtain ⟨rfl, rfl, rfl⟩ := reaches_done h
        exact .opening (hentitles (.streamed hread hstream hvalid))
    · rename_i hstream
      refine .answered (hentitles (.whole hread (by simpa using hstream))) ?_ h
      rintro (e | response) <;> exact ⟨_, rfl, _, rfl⟩

lemma dispatched_messagesOf {id : String} (hentitles : ∀ {id'}, ConversationId.parse? id = some id' →
      g.Entitles r p (.listMessages p id')) {rest} (h : Reaches κ (messagesOf p id) s t rest m) :
    Dispatched κ g r s t rest m := by
  unfold messagesOf at h
  split at h
  · exact .refused ⟨_, rfl⟩ h
  · rename_i id' hparsed
    refine .answered (hentitles hparsed) ?_ h
    rintro (e | ms) <;> exact ⟨_, rfl, _, rfl⟩

lemma dispatched_handle {route : Route} (hneeds : route.needsPrincipal = true)
    (hentitles : ∀ {op}, g.Asks r p route op → g.Entitles r p op) {rest}
    (h : Reaches κ (g.handle route p r) s t rest m) : Dispatched κ g r s t rest m := by
  cases route with
  | health => cases hneeds
  | complete => exact dispatched_complete rfl hentitles h
  | conversations =>
    refine .answered (hentitles .conversations) ?_ h
    rintro (e | cs) <;> exact ⟨_, rfl, _, rfl⟩
  | messages encoded =>
    unfold handle messagesByPath at h
    dsimp only at h
    split at h
    · rename_i text hdecoded
      exact dispatched_messagesOf (fun hparsed => hentitles (.messages hdecoded hparsed)) h
    · exact .refused ⟨_, rfl⟩ h
  | messagesByQuery =>
    unfold handle messagesByQuery at h
    dsimp only at h
    split at h
    · exact .refused ⟨_, rfl⟩ h
    · rename_i id hnamed
      split at h
      · exact .refused ⟨_, rfl⟩ h
      · exact dispatched_messagesOf (fun hparsed => hentitles (.messagesByQuery hnamed hparsed)) h
    · exact .refused ⟨_, rfl⟩ h

lemma dispatched_health {rest} (h : Reaches κ (health g.cacheEnabled) s t rest m) : Dispatched κ g r s t rest m := by
  have honly : (health g.cacheEnabled).Only fun c => ¬ Touches c := by
    refine Only.bind (.perform not_false) fun database => Only.bind ?_ fun cache => trivial
    unfold cacheHealth
    split
    · refine Only.bind (.perform not_false) ?_
      rintro (e | u) <;> trivial
    · trivial
  refine .idle (h.only honly).1 ?_
  intro reply hreply
  subst hreply
  have hrun := h.runs (.done reply m)
  rcases runs_bind.mp hrun with ⟨database, m₁, t₁, t₂, -, hrest, -⟩ | ⟨-, hnone⟩
  · rcases runs_bind.mp hrest with ⟨cache, m₂, t₃, t₄, -, hdone, -⟩ | ⟨-, hnone⟩
    · obtain ⟨-, hreply, -⟩ := runs_done.mp hdone
      cases hreply
      exact ⟨_, rfl⟩
    · cases hnone
  · cases hnone

lemma dispatched {rest} (h : Reaches κ (g.dispatch r) s t rest m) : Dispatched κ g r s t rest m := by
  unfold dispatch at h
  split at h
  · rename_i route hrouted
    unfold onRoute at h
    split at h
    · rename_i hneeds
      split at h
      · exact .refused ⟨_, rfl⟩ h
      · rename_i p hcaller
        split at h
        · rename_i hmethod
          exact dispatched_handle hneeds (fun asked => ⟨caller_eq_ok_iff.mp hcaller, hrouted, hmethod, asked⟩) h
        · exact .refused ⟨_, rfl⟩ h
    · rename_i hopen
      split at h
      · cases route with
        | health => exact dispatched_health h
        | _ => exact absurd rfl hopen
      · exact .refused ⟨_, rfl⟩ h
  · exact .refused ⟨_, rfl⟩ h

/-! ### What comes before and after -/

lemma LetIn.idle (h : g.LetIn r t) : Idle t := by
  cases h with
  | exempt path => exact idle_nil
  | admitted room =>
    intro e he
    rw [List.mem_singleton.mp he]
    exact not_false

/-- Before the route is asked, nothing is touched. -/
lemma reaches_withAdmission {inner rest : Program Reply} (h : Reaches κ (g.withAdmission r inner) s t rest m) :
    (Idle t ∧ ∀ reply, rest = .done reply → reply.IsWhole) ∨
    ∃ t₁ k t₂ rest', g.LetIn r t₁ ∧ Reaches κ inner k t₂ rest' m ∧ t = t₁ ++ t₂ ∧
      ∀ reply, rest = .done reply → ∃ reply', rest' = .done reply' ∧ reply.body = reply'.body := by
  unfold withAdmission at h
  split at h
  · rename_i hexempt
    exact .inr ⟨[], s, t, rest, .exempt hexempt, h, rfl, fun reply hreply => ⟨reply, hreply, rfl⟩⟩
  · rcases reaches_call h with ⟨rfl, rfl, rfl⟩ | ⟨answer, k, t', hit, hrest, rfl⟩
    · exact .inl ⟨idle_nil, fun reply hreply => nomatch hreply⟩
    · dsimp only [Program.bind] at hrest
      split at hrest
      · rename_i hroom
        obtain ⟨rest', hinner, hdone⟩ := reaches_bind_done (fun reply => ⟨_, rfl⟩) hrest
        refine .inr ⟨_, k, t', rest', .admitted hroom, hinner, rfl, fun reply hreply => ?_⟩
        obtain ⟨reply', hreply', heq⟩ := hdone reply hreply
        cases heq
        exact ⟨reply', hreply', ((Adds.refl reply').withDecision _).body⟩
      · obtain ⟨rfl, rfl, rfl⟩ := reaches_done hrest
        refine .inl ⟨fun e he => ?_, ?_⟩
        · rw [List.mem_singleton.mp he]
          exact not_false
        · rintro _ ⟨⟩
          exact ⟨_, ((Adds.refl _).withDecision _).body⟩

lemma withAllow_body (reply : Reply) : (withAllow r reply).body = reply.body := by
  unfold withAllow
  split
  · split <;> rfl
  · rfl

/-- What is put on a reply on its way out leaves its body, or leaves the body out. -/
lemma dressed_body (reply : Reply) : (withMethod r (withAllow r (g.withOrigin r reply))).IsWhole ∨
    (withMethod r (withAllow r (g.withOrigin r reply))).body = reply.body := by
  unfold withMethod
  split
  · exact .inl ⟨_, rfl⟩
  · exact .inr ((withAllow_body _).trans ((Adds.refl reply).withOrigin g r).body)

lemma reaches_serve {rest : Program Reply} (h : Reaches κ (g.serve r) s t rest m) :
    (Idle t ∧ ∀ reply, rest = .done reply → reply.IsWhole) ∨
    ∃ t₁ k t₂ rest', g.LetIn r t₁ ∧ Reaches κ (g.dispatch r) k t₂ rest' m ∧ t = t₁ ++ t₂ ∧
      ∀ reply, rest = .done reply → reply.IsWhole ∨ ∃ reply', rest' = .done reply' ∧ reply.body = reply'.body := by
  unfold serve at h
  split at h
  · obtain ⟨rfl, rfl, rfl⟩ := reaches_done h
    refine .inl ⟨idle_nil, ?_⟩
    rintro _ ⟨⟩
    exact ⟨_, (withAllow_body _).trans ((Adds.refl _).withOrigin g r).body⟩
  · obtain ⟨rest₁, hadmission, hdressed⟩ := reaches_bind_done (fun reply => ⟨_, rfl⟩) h
    rcases reaches_withAdmission hadmission with ⟨hidle, hwhole⟩ | ⟨t₁, k, t₂, rest', hletIn, hdispatch, rfl, hbody⟩
    · refine .inl ⟨hidle, fun reply hreply => ?_⟩
      obtain ⟨reply₁, hreply₁, heq⟩ := hdressed reply hreply
      cases heq
      obtain ⟨text, htext⟩ := hwhole reply₁ hreply₁
      rcases dressed_body (g := g) (r := r) reply₁ with h | h
      · exact h
      · exact ⟨text, h.trans htext⟩
    · refine .inr ⟨t₁, k, t₂, rest', hletIn, hdispatch, rfl, fun reply hreply => ?_⟩
      obtain ⟨reply₁, hreply₁, heq⟩ := hdressed reply hreply
      cases heq
      obtain ⟨reply', hreply', hsame⟩ := hbody reply₁ hreply₁
      exact (dressed_body reply₁).imp_right fun h => ⟨reply', hreply', h.trans hsame⟩

lemma endStream_only (y : Except PipelineError ConversationId) :
    (endStream y).Only fun c => ∃ event, c = .emit event := by
  have hemit : ∀ event, (emit event).Only fun c => ∃ event, c = .emit event :=
    fun event => Only.bind (.perform ⟨event, rfl⟩) fun _ => trivial
  cases y with
  | ok id => exact hemit _
  | error e =>
    by_cases he : e = .cancelled
    · subst he
      exact hemit _
    · rw [endStream_error he]
      exact Only.bind (hemit _) fun _ => hemit _

/-- The writer of a stream runs the pipeline, and then touches nothing. -/
lemma reaches_writeStream {o : Orchestrator} {q : PipelineRequest} {rest : Program Unit}
    (h : Reaches κ (writeStream o p q) s t rest m) : ∃ u rest' k t₂, Reaches κ (streaming o p q) s u rest' k ∧
      (∀ e ∈ t₂, ∃ event, e.call = .emit event) ∧ t = u ++ t₂ := by
  rcases reaches_bind h with ⟨rest', hstream, -⟩ | ⟨y, k, u, t₂, hstream, hend, rfl⟩
  · exact ⟨t, rest', m, [], hstream, by simp, (List.append_nil t).symm⟩
  · exact ⟨u, _, k, t₂, hstream, (hend.only (endStream_only y)).1, rfl⟩

/-! ### The whole exchange -/

/-- The body of a reply is written only event by event, and after the reply is there. -/
lemma reaches_exchange {rest : Program Reply} (h : Reaches κ (g.exchange r) s t rest m) :
    ∃ t₁ t₂ rest₁ k, Reaches κ (g.serve r) s t₁ rest₁ k ∧ t = t₁ ++ t₂ ∧
      (t₂ = [] ∨ ∃ reply writer rest₂, rest₁ = .done reply ∧ reply.body = .events writer ∧
        Reaches κ writer k t₂ rest₂ m) := by
  rcases reaches_bind h with ⟨rest₁, hserve, -⟩ | ⟨reply, k, t₁, t₂, hserve, hdeliver, rfl⟩
  · exact ⟨t, [], rest₁, m, hserve, (List.append_nil t).symm, .inl rfl⟩
  · refine ⟨t₁, t₂, _, k, hserve, rfl, ?_⟩
    unfold Reply.deliver at hdeliver
    split at hdeliver
    · exact .inl (reaches_done hdeliver).1
    · rename_i writer hbody
      obtain ⟨rest₂, hwriter, -⟩ := reaches_bind_done (fun _ => ⟨reply, rfl⟩) hdeliver
      exact .inr ⟨reply, writer, rest₂, rfl, hbody, hwriter⟩

/-- However far the gateway goes with a request, it touches nothing or has authority. -/
lemma idle_or_authorized {rest : Program Reply} (h : Reaches κ (g.exchange r) s t rest m) :
    Idle t ∨ g.Authorized κ r t := by
  obtain ⟨t₁, t₂, rest₁, k, hserve, rfl, hwritten⟩ := reaches_exchange h
  have hserved := reaches_serve hserve
  rcases hwritten with rfl | ⟨reply, writer, rest₂, rfl, hevents, hwriter⟩
  · rcases hserved with ⟨hidle, -⟩ | ⟨t₃, k', t₄, rest', hletIn, hdispatch, rfl, -⟩
    · exact .inl (idle_append.mpr ⟨hidle, idle_nil⟩)
    · cases dispatched hdispatch with
      | idle hidle _ => exact .inl (idle_append.mpr ⟨idle_append.mpr ⟨hletIn.idle, hidle⟩, idle_nil⟩)
      | operating entitled run _ => exact .inr (.mk entitled hletIn run (List.forall_mem_nil _))
      | opening entitled => exact .inl (idle_append.mpr ⟨idle_append.mpr ⟨hletIn.idle, idle_nil⟩, idle_nil⟩)
  · -- what is written event by event is a stream that was asked for
    rcases hserved with ⟨-, hwhole⟩ | ⟨t₃, k', t₄, rest', hletIn, hdispatch, rfl, hbody⟩
    · exact absurd hevents (hwhole reply rfl).not_events
    · rcases hbody reply rfl with hwhole | ⟨reply', rfl, hsame⟩
      · exact absurd hevents hwhole.not_events
      · rw [hsame] at hevents
        cases dispatched hdispatch with
        | idle _ hwhole => exact absurd hevents (hwhole reply' rfl).not_events
        | operating _ _ hwhole => exact absurd hevents (hwhole reply' rfl).not_events
        | opening entitled =>
          cases hevents
          obtain ⟨u, rest', m', t₅, hstream, hending, rfl⟩ := reaches_writeStream hwriter
          rw [List.append_nil, ← List.append_assoc]
          exact .inr (.mk entitled hletIn hstream hending)

/-! ### Requests of nobody -/

lemma not_options {route : Route} (h : route.methods.contains r.method = true) : r.method ≠ "OPTIONS" := by
  intro heq
  rw [heq] at h
  cases route <;> simp [Route.methods] at h

lemma dispatch_unauthorized {route : Route} (hrouted : Route.ofPath? r.path = some route)
    (hneeds : route.needsPrincipal = true) (hnobody : ∀ p, ¬ g.Vouches r p) :
    ∃ message, g.dispatch r = .done (Reply.unauthorized message) := by
  cases hcaller : g.caller r with
  | error fault => exact ⟨fault.message, by simp only [dispatch, hrouted, onRoute, if_pos hneeds, hcaller]⟩
  | ok p => exact absurd (caller_eq_ok_iff.mp hcaller) (hnobody p)

lemma withAdmission_idle (reply : Reply) : (g.withAdmission r (.done reply)).Only fun c => ¬ Touches c := by
  unfold withAdmission
  split
  · trivial
  · refine Only.bind (.perform not_false) fun answer => ?_
    dsimp only
    split <;> trivial

/-- A request that is let in but names no caller is refused. -/
lemma exchange_unauthorized {route : Route} (hrouted : Route.ofPath? r.path = some route)
    (hneeds : route.needsPrincipal = true) (hmethod : route.methods.contains r.method = true)
    (hnobody : ∀ p, ¬ g.Vouches r p) {x} (hrun : Runs κ (g.exchange r) s t x m)
    (hadmitted : ∀ e ∈ t, admits g.policy e = true) : Idle t ∧ ∃ reply, x = some reply ∧ reply.head.status = 401 := by
  obtain ⟨message, hdispatch⟩ := dispatch_unauthorized hrouted hneeds hnobody
  have hallow : ∀ reply, withAllow r reply = reply := by
    intro reply
    rw [withAllow, hrouted]
    exact if_pos hmethod
  rw [exchange, serve, if_neg (not_options hmethod), hdispatch] at hrun
  rcases runs_bind.mp hrun with ⟨reply₁, m₁, t₁, t₂, hserve, hdeliver, rfl⟩ | ⟨hserve, -⟩
  · rcases runs_bind.mp hserve with ⟨reply₀, m₀, t₃, t₄, hadmission, hdone, rfl⟩ | ⟨-, hnone⟩
    · obtain ⟨rfl, hreply₁, rfl⟩ := runs_done.mp hdone
      rw [List.append_nil] at hadmitted ⊢
      obtain ⟨reply', hreply', hadds⟩ :=
        runs_withAdmission hadmission fun e he => hadmitted e (List.mem_append_left _ he)
      cases hreply'
      have hdressed := hadds.withOrigin g r
      have hwhole : reply₁.IsWhole ∧ reply₁.head.status = 401 := by
        rw [Option.some.inj hreply₁, hallow, withMethod]
        split
        · exact ⟨⟨_, rfl⟩, hdressed.status⟩
        · exact ⟨⟨_, hdressed.body⟩, hdressed.status⟩
      rw [hwhole.1.deliver] at hdeliver
      obtain ⟨rfl, rfl, rfl⟩ := runs_done.mp hdeliver
      rw [List.append_nil]
      exact ⟨hadmission.only (withAdmission_idle _), reply₁, rfl, hwhole.2⟩
    · cases hnone
  · -- admission control always answers
    rcases runs_bind.mp hserve with ⟨reply₀, m₀, t₃, t₄, -, hdone, rfl⟩ | ⟨hadmission, -⟩
    · cases (runs_done.mp hdone).2.1
    · obtain ⟨reply', hreply', -⟩ := runs_withAdmission hadmission hadmitted
      cases hreply'

/-! ### All together -/

/-- The gateway touches nothing, changes nothing and tells nothing without a caller. -/
theorem guarded (g : Service) (r : Http.Request) : Guarded g r where
  touched := by
    intro σ κ s t rest m h e he htouches
    exact (idle_or_authorized h).resolve_left fun hidle => hidle e he htouches
  changed := by
    intro σ outside x t rest x' h hchanged
    refine (idle_or_authorized h).resolve_left fun hidle => ?_
    obtain ⟨hstore, hcache⟩ := hidle.keeps h
    exact hchanged.elim (absurd hstore) (absurd hcache)
  told := by
    intro σ outside x t reply x' h hauthorized y u reply' y' hxy h'
    obtain ⟨rest, hreaches, -⟩ := Reaches.of_runs h
    have hidle := (idle_or_authorized hreaches).resolve_right hauthorized
    obtain ⟨hreply, hends⟩ := hidle.alike hxy h h'
    exact ⟨hreply, hends.emitter⟩
  caller _ _ _ hheader h h' := h.unique hheader h'
  refused _ hrouted hneeds hmethod hnobody _ _ _ _ _ _ := exchange_unauthorized hrouted hneeds hmethod hnobody

/-- An empty store in memory and an empty cache. -/
def beginning : Rehearsal.State :=
  (.fresh (.memory .empty) (.memory (.empty 10)),
    .start ⟨fun r => .ok (Script.echo r), fun r => ⟨Script.echoChunks r, .finished⟩, fun _ => none, none⟩ none)

/-- Alice has prompt and answer in the store, and it was her token that put them there. -/
theorem guarded_repeated :
    Guarded smallService brokenRequest ∧
    ∃ t rest x, Reaches (housed Rehearsal.outside) (smallService.exchange brokenRequest) beginning t rest x ∧
      x.1.store.messageCount? = some 2 ∧ smallService.Authorized (housed Rehearsal.outside) brokenRequest t := by
  have hhoused : ∀ c x, housed Rehearsal.outside c x (Rehearsal.base c x).1 (Rehearsal.base c x).2 := fun _ _ => rfl
  have hrun := record_runs hhoused (smallService.exchange brokenRequest) beginning
  have hcount : ((smallService.exchange brokenRequest).record Rehearsal.base beginning).2.2.1.store.messageCount? =
      some 2 := by
    rw [exchange, serve, dispatch_stream rfl rfl broken_caller broken_read rfl]
    rfl
  obtain ⟨rest, hreaches, -⟩ := Reaches.of_runs hrun
  have hguarded := guarded smallService brokenRequest
  refine ⟨hguarded, _, rest, _, hreaches, hcount, hguarded.changed _ _ _ _ _ hreaches (.inl fun hkept => ?_)⟩
  rw [hkept] at hcount
  cases hcount

end Service
end Gateway
end CompletionGateway
