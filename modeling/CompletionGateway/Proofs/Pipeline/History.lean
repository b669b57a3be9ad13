import CompletionGateway.Proofs.Pipeline.Courses

/-! Sequences of requests to the orchestrator, each of which runs to its end before the next one comes. -/
namespace CompletionGateway
open Program

/-- A request to the orchestrator. -/
inductive Operation where
  | complete (p : Principal) (q : PipelineRequest)
  | stream (p : Principal) (q : PipelineRequest)
  | listMessages (p : Principal) (id : ConversationId)
  | listConversations (p : Principal)

namespace Operation

abbrev Answer : Operation → Type
  | .complete _ _ => InferenceResponse
  | .stream _ _ => ConversationId
  | .listMessages _ _ => List Message
  | .listConversations _ => List Conversation

def principal : Operation → Principal
  | .complete p _ => p
  | .stream p _ => p
  | .listMessages p _ => p
  | .listConversations p => p

/-- The conversation that the request names. -/
def named? : Operation → Option ConversationId
  | .complete _ q => q.conversation
  | .stream _ q => q.conversation
  | .listMessages _ id => some id
  | .listConversations _ => none

/-- The conversation that an answer carries. -/
def answeredIn? : (op : Operation) → op.Answer → Option ConversationId
  | .complete _ _, r => some r.conversation
  | .stream _ _, id => some id
  | .listMessages _ _, _ => none
  | .listConversations _, _ => none

/-- What runs for the request. A stream is handed frame by frame to a consumer, who may refuse. -/
def program (o : Orchestrator) : (op : Operation) → Attempt op.Answer
  | .complete p q => o.complete p q
  | .stream p q => o.stream (fun f => perform (.offer f)) p q
  | .listMessages p id => Orchestrator.listMessages p id
  | .listConversations p => Orchestrator.listConversations p

end Operation

/-- A request that has run, with all its calls and the states before and after. -/
structure Entry (σ : Type) where
  op : Operation
  before : σ
  trace : List (Event σ)
  /-- There is none if the run got stuck. -/
  result : Option (Except PipelineError op.Answer)
  after : σ

/-- The run of the request is one that a conduct allows. -/
def Entry.Ran {σ : Type} (κ : Conduct σ) (o : Orchestrator) (e : Entry σ) : Prop :=
  Runs κ (e.op.program o) e.before e.trace e.result e.after

/-- The request run under a handler. -/
def Entry.under {σ : Type} (h : Handler σ) (o : Orchestrator) (op : Operation) (s : σ) : Entry σ :=
  let r := (op.program o).record h s
  ⟨op, s, r.1, r.2.1, r.2.2⟩

lemma Entry.under_ran {σ : Type} {κ : Conduct σ} {h : Handler σ} (hκ : ∀ c s, κ c s (h c s).1 (h c s).2)
    (o : Orchestrator) (op : Operation) (s : σ) : (Entry.under h o op s).Ran κ o := record_runs hκ _ _

/-- The requests that lead from one state to another, in the order of time. -/
inductive History {σ : Type} (κ : Conduct σ) (o : Orchestrator) (s : σ) : List (Entry σ) → σ → Prop
  | nil : History κ o s [] s
  | snoc {es} (e : Entry σ) (earlier : History κ o s es e.before) (ran : e.Ran κ o) :
      History κ o s (es ++ [e]) e.after

namespace History
variable {σ : Type} {κ : Conduct σ} {o : Orchestrator}

lemma nil_iff {s s' : σ} : History κ o s [] s' ↔ s' = s := by
  constructor
  · intro h
    generalize hes : [] = es at h
    cases h with
    | nil => rfl
    | snoc e earlier ran => simp at hes
  · rintro rfl
    exact .nil

lemma snoc_iff {s s' : σ} {es : List (Entry σ)} {e : Entry σ} :
    History κ o s (es ++ [e]) s' ↔ History κ o s es e.before ∧ e.Ran κ o ∧ s' = e.after := by
  constructor
  · intro h
    generalize hes : es ++ [e] = fs at h
    cases h with
    | nil => simp at hes
    | snoc f earlier ran =>
      obtain ⟨rfl, he⟩ := List.append_inj' hes rfl
      obtain rfl := List.singleton_inj.mp he
      exact ⟨earlier, ran, rfl⟩
  · rintro ⟨earlier, ran, rfl⟩
    exact .snoc e earlier ran

lemma mono {κ' : Conduct σ} (hκ : ∀ {c s a s'}, κ c s a s' → κ' c s a s') {s s' : σ} {es : List (Entry σ)}
    (h : History κ o s es s') : History κ' o s es s' := by
  induction h with
  | nil => exact .nil
  | snoc e earlier ran ih => exact .snoc e ih (ran.mono hκ)

/-- A history goes on with a request that is run under a handler. -/
lemma under {h : Handler σ} (hκ : ∀ c s, κ c s (h c s).1 (h c s).2) {s m : σ} {es : List (Entry σ)}
    (earlier : History κ o s es m) (op : Operation) :
    History κ o s (es ++ [.under h o op m]) (Entry.under h o op m).after :=
  .snoc _ earlier (Entry.under_ran hκ o op m)

/-- A history falls into two at every point. -/
lemma append_iff {s s' : σ} {pre post : List (Entry σ)} :
    History κ o s (pre ++ post) s' ↔ ∃ m, History κ o s pre m ∧ History κ o m post s' := by
  induction post using List.reverseRecOn generalizing s' with
  | nil =>
    constructor
    · intro h
      exact ⟨s', by simpa using h, .nil⟩
    · rintro ⟨m, hpre, hpost⟩
      obtain rfl := nil_iff.mp hpost
      simpa using hpre
  | append_singleton post e ih =>
    rw [← List.append_assoc, snoc_iff, ih]
    constructor
    · rintro ⟨⟨m, hpre, hpost⟩, ran, rfl⟩
      exact ⟨m, hpre, .snoc e hpost ran⟩
    · rintro ⟨m, hpre, hpost⟩
      obtain ⟨hmid, ran, rfl⟩ := snoc_iff.mp hpost
      exact ⟨⟨m, hpre, hmid⟩, ran, rfl⟩

/-- What happened up to a request, its run, and what happened after it. -/
lemma split {s s' : σ} {pre post : List (Entry σ)} {e : Entry σ} (h : History κ o s (pre ++ e :: post) s') :
    History κ o s pre e.before ∧ e.Ran κ o ∧ History κ o e.after post s' := by
  rw [List.append_cons] at h
  obtain ⟨m, hmid, hpost⟩ := append_iff.mp h
  obtain ⟨hpre, ran, rfl⟩ := snoc_iff.mp hmid
  exact ⟨hpre, ran, hpost⟩

lemma ran {s s' : σ} {es : List (Entry σ)} {e : Entry σ} (h : History κ o s es s') (he : e ∈ es) : e.Ran κ o := by
  obtain ⟨pre, post, rfl⟩ := List.append_of_mem he
  exact h.split.2.1

/-- What relates the states around every request relates the states around a history. -/
theorem related {s s' : σ} {es : List (Entry σ)} (R : σ → σ → Prop) (refl : ∀ s, R s s)
    (trans : ∀ {s m s'}, R s m → R m s' → R s s') (h : History κ o s es s')
    (step : ∀ e ∈ es, R e.before e.after) : R s s' := by
  induction h with
  | nil => exact refl s
  | snoc e earlier ran ih =>
    exact trans (ih fun f hf => step f (List.mem_append_left _ hf)) (step e (by simp))

end History
end CompletionGateway
