import CompletionGateway.Proofs.Gateway.Authority

/-! Behind admission control nothing has to do with it. Whatever a route does, it counts no request, and its answer neither
looks like a denial nor tells a client how it stands. -/
namespace CompletionGateway
open Program Gateway

namespace Http.Head
variable {name name' : String}

/-- The values of the headers of a name. -/
def values (h : Head) (name : String) : List String := (h.headers.filter (·.1 = name)).map (·.2)

lemma values_set (h : Head) (name value : String) : (h.set name value).values name = [value] := by
  simp [values, set, List.filter_filter]

lemma values_set_of_ne (h : Head) (hne : name' ≠ name) (value : String) :
    (h.set name' value).values name = h.values name := by
  have hkept : (h.headers.filter (·.1 ≠ name')).filter (·.1 = name) = h.headers.filter (·.1 = name) := by
    rw [List.filter_filter]
    refine List.filter_congr fun e _ => ?_
    by_cases he : e.1 = name <;> simp [he, hne.symm]
  rw [values, set, List.filter_append, hkept]
  simp [hne, values]

lemma values_setDefault_of_ne (h : Head) (hne : name' ≠ name) (value : String) :
    (h.setDefault name' value).values name = h.values name := by
  unfold setDefault
  split
  · rfl
  · exact h.values_set_of_ne hne value

end Http.Head

/-! ### The pipeline -/

/-- The calls that count a request. -/
def Counting : Call → Prop
  | .hit _ _ => True
  | _ => False

namespace Attempt
variable {α β : Type}

/-- An attempt that has nothing to do with admission: it counts nothing, and fails for other reasons than a denial. -/
def Unmetered (p : Attempt α) : Prop := p.Within (¬ Counting ·) fun x => ∀ e, x = .error e → e.status ≠ 429

lemma unmetered_ok (a : α) : Unmetered (.done (.ok a) : Attempt α) := .done fun _ h => nomatch h

lemma unmetered_error {e : PipelineError} (h : e.status ≠ 429) : Unmetered (.done (.error e) : Attempt α) := by
  refine .done fun e' he => ?_
  cases he
  exact h

lemma Unmetered.andThen {p : Attempt α} {f : α → Attempt β} (hp : p.Unmetered) (hf : ∀ a, (f a).Unmetered) :
    (p.andThen f).Unmetered := by
  refine Within.bind hp ?_
  rintro (e | a) hx
  · exact unmetered_error (hx e rfl)
  · exact hf a

lemma andThen_only {K : Call → Prop} {p : Attempt α} {f : α → Attempt β} (hp : p.Only K) (hf : ∀ a, (f a).Only K) :
    (p.andThen f).Only K := by
  refine hp.bind ?_
  rintro (e | a)
  · trivial
  · exact hf a

lemma unmetered_ofStore {p : Program (Except StoreError α)} (hp : p.Only (¬ Counting ·)) : (ofStore p).Unmetered := by
  refine Within.after hp ?_
  rintro (e | a)
  · exact unmetered_error (by simp [PipelineError.status])
  · exact unmetered_ok a

end Attempt

namespace Orchestrator
open Attempt
variable {o : Orchestrator} {p : Principal} {q : PipelineRequest}

lemma preparing_not_counting {c : Call} (h : Preparing c) : ¬ Counting c := by
  cases c <;> first | exact h.elim | exact id

lemma recording_not_counting {c : Call} (h : Recording c) : ¬ Counting c := by
  cases c <;> first | exact h.elim | exact id

lemma unmetered_validate : Unmetered (.done (o.validate q)) := by
  refine .done fun e he => ?_
  rw [Gateway.validate_status he]
  decide

lemma unmetered_startConversation : (startConversation p).Unmetered :=
  .after (.perform id) fun _ => .after (.perform id) fun _ =>
    (unmetered_ofStore (.perform id)).andThen fun _ => unmetered_ok _

lemma unmetered_resolve (named : Option ConversationId) : (resolve p named).Unmetered := by
  cases named with
  | none => exact unmetered_startConversation
  | some conversation =>
    refine (unmetered_ofStore (.perform id)).andThen ?_
    rintro (_ | c)
    · exact unmetered_startConversation
    · dsimp only
      split
      · exact unmetered_ok _
      · exact unmetered_error (by simp [PipelineError.status])

lemma unmetered_complete : (o.complete p q).Unmetered := by
  refine unmetered_validate.andThen fun _ => (unmetered_resolve _).andThen fun conversation => ?_
  refine (unmetered_ofStore ((history_only _ _ _).mono preparing_not_counting)).andThen fun turns => ?_
  have hlookup : (Cache.lookup (Json.decodeBytes InferenceResponse.ofTree?) (o.inquiry p q).fingerprint).Only
      (¬ Counting ·) := by
    refine Only.bind (.perform id) ?_
    rintro (e | _ | bytes) <;> trivial
  refine .after hlookup ?_
  rintro (_ | hit)
  · refine .after (.perform id) ?_
    rintro (e | c)
    · exact unmetered_error (by simp [PipelineError.status])
    · refine .after (.perform id) fun u => .after (.perform id) fun latency => ?_
      refine .after (Only.bind (.perform id) fun _ => trivial) fun _ => ?_
      exact .after ((persist_only _ _ _ _ _ _).mono recording_not_counting) fun _ => unmetered_ok _
  · exact .after (.perform id) fun _ => unmetered_ok _

lemma unmetered_listMessages (conversation : ConversationId) : (listMessages p conversation).Unmetered := by
  refine (unmetered_ofStore (.perform id)).andThen ?_
  rintro (_ | c)
  · exact unmetered_error (by simp [PipelineError.status])
  · dsimp only
    split
    · exact unmetered_ofStore (.perform id)
    · exact unmetered_error (by simp [PipelineError.status])

/-- The calls of a streamed answer beside those of its consumer. -/
lemma stream_only {K : Call → Prop} (hK : ∀ {c}, Preparing c ∨ Recording c → K c) (hopen : ∀ r, K (.openFeed r))
    {sink : FrameSink} (hsink : ∀ f, (sink f).Only K) : (o.stream sink p q).Only K := by
  have hbuild : ∀ conversation, (Context.build o.injector o.historyLimit conversation q.prompt).Only K := by
    intro conversation
    refine ((history_only _ _ _).mono fun h => hK (.inl h)).bind ?_
    rintro (e | turns) <;> trivial
  refine andThen_only trivial fun _ => ?_
  refine andThen_only ((resolve_only _ _).mono fun h => hK (.inl h)) fun conversation => ?_
  refine andThen_only ((hbuild _).bind (by rintro (e | turns) <;> trivial)) fun turns => ?_
  refine Only.bind (.perform (hopen _)) fun feed => (relayFeed_only hsink _ _).bind ?_
  rintro (e | text)
  · trivial
  · exact ((persist_only _ _ _ _ _ _).mono fun h => hK (.inr h)).bind fun _ => trivial

end Orchestrator

namespace Gateway
open Orchestrator

/-! ### Answers of the routes -/

/-- The headers that tell a client how it stands. -/
def rateHeaders : List String := ["x-ratelimit-limit", "x-ratelimit-remaining", "retry-after"]

/-- A reply that says nothing of admission, and whose body is written without counting anything. -/
structure Reply.Silent (reply : Reply) : Prop where
  status : reply.head.status ≠ 429
  headers : ∀ name ∈ rateHeaders, reply.head.values name = []
  body : ∀ writer, reply.body = .events writer → writer.Only (¬ Counting ·)

/-- A program for a reply that has nothing to do with admission. -/
def SilentProgram (p : Program Reply) : Prop := p.Within (¬ Counting ·) Reply.Silent

namespace Reply.Silent

lemma plain {head : Http.Head} {body : Body} (hstatus : head.status ≠ 429)
    (hheaders : ∀ h ∈ head.headers, h.1 ∉ rateHeaders)
    (hbody : ∀ writer, body = .events writer → writer.Only (¬ Counting ·)) : (Reply.mk head body).Silent := by
  refine ⟨hstatus, fun name hname => ?_, hbody⟩
  have hnone : head.headers.filter (·.1 = name) = [] := by
    refine List.filter_eq_nil_iff.mpr fun h hh => ?_
    simp only [decide_eq_true_eq]
    rintro rfl
    exact hheaders h hh hname
  rw [Http.Head.values, hnone, List.map_nil]

lemma json {status : Nat} (h : status ≠ 429) (j : Json) : (Reply.json status j).Silent :=
  plain h (by simp [rateHeaders]) nofun

lemma text {status : Nat} (h : status ≠ 429) (s : String) : (Reply.text status s).Silent :=
  plain h (by simp [rateHeaders]) nofun

lemma empty {status : Nat} (h : status ≠ 429) : (Reply.empty status).Silent := plain h (by simp) nofun

lemma ofError {e : PipelineError} (h : e.status ≠ 429) : (Reply.ofError e).Silent := json h _

end Reply.Silent

open Reply.Silent in
/-- An attempt is answered with its value or its failure. -/
lemma silent_of_unmetered {α : Type} {attempt : Attempt α} (h : attempt.Unmetered)
    {f : Except PipelineError α → Program Reply} (hok : ∀ a, SilentProgram (f (.ok a))) (herror : ∀ e, f (.error e) = .done (Reply.ofError e)) :
    SilentProgram (Program.bind attempt f) := by
  refine Within.bind h ?_
  rintro (e | a) hx
  · rw [herror]
    exact .done (ofError (hx e rfl))
  · exact hok a

section
open Reply.Silent
variable {g : Service} {r : Http.Request} {p : Principal}

lemma writeStream_uncounted {o : Orchestrator} {q : PipelineRequest} : (writeStream o p q).Only (¬ Counting ·) := by
  refine (stream_only ?_ (fun _ => id) fun f => .perform id).bind fun y => (Service.endStream_only y).mono ?_
  · rintro c (h | h)
    · exact preparing_not_counting h
    · exact recording_not_counting h
  · rintro c ⟨e, rfl⟩
    exact id

lemma silent_health (cacheEnabled : Bool) : SilentProgram (health cacheEnabled) := by
  have hcache : (cacheHealth cacheEnabled).Only (¬ Counting ·) := by
    unfold cacheHealth
    split
    · refine Only.bind (.perform id) ?_
      rintro (e | u) <;> trivial
    · trivial
  refine .after (.perform id) fun database => .after hcache fun cache => ?_
  refine .done (json ?_ _)
  split <;> decide

lemma silent_complete (o : Orchestrator) (bodyLimit : Nat) : SilentProgram (complete o bodyLimit p r) := by
  unfold Gateway.complete
  split
  · rename_i fault _
    cases fault <;> exact .done (json (by decide) _)
  · split
    · split
      · rename_i e he
        exact .done (ofError (by rw [validate_status he]; decide))
      · exact .done (plain (by decide) (by decide) fun writer hwriter => by cases hwriter; exact writeStream_uncounted)
    · exact silent_of_unmetered unmetered_complete (fun _ => .done (json (by decide) _)) fun _ => rfl

lemma silent_messagesOf (id : String) : SilentProgram (messagesOf p id) := by
  unfold messagesOf
  split
  · exact .done (json (by decide) _)
  · exact silent_of_unmetered (unmetered_listMessages _) (fun _ => .done (json (by decide) _)) fun _ => rfl

lemma silent_conversations : SilentProgram (conversations p) :=
  silent_of_unmetered (Attempt.unmetered_ofStore (.perform id)) (fun _ => .done (json (by decide) _)) fun _ => rfl

lemma silent_methodNotAllowed (route : Route) : (Service.methodNotAllowed route).Silent := by
  refine plain (by simp [Reply.empty, Http.Head.set]) ?_ nofun
  simp [Reply.empty, Http.Head.set, rateHeaders]

/-! ### All routes -/

section Cases
variable {motive : Program Reply → Prop}
  (refused : ∀ {reply : Reply}, reply.IsWhole → reply.Silent → motive (.done reply))
  (onHealth : motive (health g.cacheEnabled)) (onComplete : ∀ p, motive (complete g.orchestrator g.bodyLimit p r))
  (onConversations : ∀ p, motive (conversations p)) (onMessages : ∀ p id, motive (messagesOf p id))
include refused onHealth onComplete onConversations onMessages

lemma handle_cases (route : Route) (p : Principal) : motive (g.handle route p r) := by
  cases route with
  | health => exact onHealth
  | complete => exact onComplete p
  | conversations => exact onConversations p
  | messages encoded =>
    rw [Service.handle, messagesByPath]
    split
    · exact onMessages p _
    · exact refused ⟨_, rfl⟩ (text (by decide) _)
  | messagesByQuery =>
    rw [Service.handle, messagesByQuery]
    split
    · exact refused ⟨_, rfl⟩ (json (by decide) _)
    · split
      · exact refused ⟨_, rfl⟩ (json (by decide) _)
      · exact onMessages p _
    · exact refused ⟨_, rfl⟩ (text (by decide) _)

/-- A request is refused at once, or one of four handlers answers it. -/
lemma dispatch_cases : motive (g.dispatch r) := by
  have hhandle := handle_cases refused onHealth onComplete onConversations onMessages
  unfold Service.dispatch
  split
  · unfold Service.onRoute
    split
    · split
      · exact refused ⟨_, rfl⟩ (json (by decide) _)
      · split
        · exact hhandle _ _
        · exact refused ⟨_, rfl⟩ (silent_methodNotAllowed _)
    · split
      · exact hhandle _ _
      · exact refused ⟨_, rfl⟩ (silent_methodNotAllowed _)
  · exact refused ⟨_, rfl⟩ (empty (by decide))

end Cases

/-- No route says anything of admission. -/
lemma silent_dispatch : SilentProgram (g.dispatch r) :=
  dispatch_cases (motive := SilentProgram) (fun _ hsilent => .done hsilent) (silent_health _)
    (fun _ => silent_complete _ _) (fun _ => silent_conversations) fun _ _ => silent_messagesOf _

end

end Gateway
end CompletionGateway
