import CompletionGateway.Proofs.Pipeline.Relaying
import CompletionGateway.Proofs.Store.Beginnings

/-! Runs that fail. Whatever fails, and wherever, a run that returns a failure has put nothing on record and nothing into
the cache. It leaves at most an empty conversation behind, begun for its caller. -/
namespace CompletionGateway
open Program Store Gateway

/-- The calls that keep an answer. -/
def Keeping : Call → Prop
  | .appendMessage _ => True
  | .writeCache _ _ _ => True
  | _ => False

/-- The calls that ask for an answer and hand it on. -/
def Asking : Call → Prop
  | .readCache _ => True
  | .complete _ => True
  | .openFeed _ => True
  | c => Consuming c

lemma consuming_asking {c : Call} (h : Consuming c) : Asking c := by
  cases c <;> first | exact h | trivial

lemma asking_not_writes {c : Call} (h : Asking c) : ¬ Memory.writes c := by
  cases c <;> first | exact h.elim | exact id

lemma asking_not_keeping {c : Call} (h : Asking c) : ¬ Keeping c := by
  cases c <;> first | exact h.elim | exact id

lemma preparing_not_keeping {c : Call} (h : Orchestrator.Preparing c) : ¬ Keeping c := by
  cases c <;> first | exact h.elim | exact id

/-- A store whose operations may fail. One that fails changes nothing, and the other collaborators leave the store as it
is. -/
structure Fallible {σ : Type} (κ : Conduct σ) (store : σ → Conversations) : Prop where
  found : ∀ {id s x s'}, κ (.findConversation id) s (.ok x) s' → (store s).find id = .ok x
  created : ∀ {c s a s'}, κ (.createConversation c) s a s' →
    (a, store s') = (store s).create c ∨ (∃ e, a = .error e) ∧ store s' = store s
  kept : ∀ {c s a s'}, κ c s a s' → ¬ Memory.writes c → store s' = store s

lemma Fallible.runs_kept {σ : Type} {κ : Conduct σ} {store : σ → Conversations} (h : Fallible κ store) {α : Type}
    {f : Program α} {s t s'} {r : Option α} (hrun : Runs κ f s t r s') (ht : ∀ x ∈ t, ¬ Memory.writes x.call) :
    store s' = store s :=
  hrun.related (fun s s' => store s' = store s) (fun _ => rfl) (fun h h' => h'.trans h)
    fun x hx _ hκ => h.kept hκ (ht x hx)

namespace Orchestrator
variable {σ : Type} {κ : Conduct σ} {store : σ → Conversations} {o : Orchestrator} {sink : FrameSink} {p : Principal}
  {q : PipelineRequest} {s s' : σ}

/-! ### Courses that fail -/

/-- A run that fails: it is refused, or it asks in vain. -/
inductive FailedRun (κ : Conduct σ) (o : Orchestrator) (p : Principal) (q : PipelineRequest) (s : σ) :
    List (Event σ) → PipelineError → σ → Prop
  | refused {t e s'} (h : RefusedRun κ o p q s t e s') : FailedRun κ o p q s t e s'
  | unanswered {t id ms m α t' e s'} {f : Program α} {r : Option α} (ready : ReadyRun κ o p q s t id ms m)
      (asking : Runs κ f m t' r s') (only : ∀ x ∈ t', Asking x.call) (failure : e = .cancelled ∨ ∃ d, e = .backend d) :
      FailedRun κ o p q s (t ++ t') e s'

lemma CompleteRun.failedRun {t e} (h : CompleteRun κ o p q s t (.error e) s') : FailedRun κ o p q s t e s' := by
  cases h with
  | refused h => exact .refused h
  | failed ready looked missed asked =>
    exact .unanswered (f := .call _ fun _ => .call _ .done) ready (.call looked (.call asked (.done _ _)))
      (by simp [Asking]) (.inr ⟨_, rfl⟩)

lemma StreamRun.failedRun (hsink : ∀ f, (sink f).Only Consuming) {t e}
    (h : StreamRun κ o sink p q s t (some (.error e)) s') : FailedRun κ o p q s t e s' := by
  cases h with
  | refused h => exact .refused h
  | @failed _ id _ _ feed _ _ d _ ready opened relayed =>
    refine .unanswered (f := .call _ (relayFeed sink id)) ready (.call opened relayed) ?_ ?_
    · intro x hx
      rcases List.mem_cons.mp hx with rfl | hx
      · trivial
      · exact consuming_asking (relayed.only (relayFeed_only hsink id feed) x hx)
    · cases d <;> first | exact .inl rfl | exact .inr ⟨_, rfl⟩

/-! ### What failing leaves behind -/

lemma StartRun.atMostBegun (h : Fallible κ store) {t x} (hrun : StartRun κ p s t x s') :
    store s' = store s ∨ ∃ c, c.owner = p ∧ (store s).Begins c (store s') := by
  obtain ⟨drawn, clock, entered⟩ := hrun
  have hdrawn := h.kept drawn id
  have hclock := h.kept clock id
  rcases h.created entered with hcreate | ⟨-, hkept⟩
  · rw [hclock, hdrawn] at hcreate
    obtain ⟨-, hstore⟩ := Prod.ext_iff.mp hcreate
    rw [show store s' = _ from hstore]
    rcases (store s).create_cases _ with ⟨-, begins⟩ | ⟨-, hsame⟩
    · exact .inr ⟨_, rfl, begins⟩
    · exact .inl hsame
  · exact .inl (hkept.trans (hclock.trans hdrawn))

lemma ResolveRun.atMostBegun (h : Fallible κ store) {named t x} (hrun : ResolveRun κ p s named t x s') :
    (store s).AtMostBegun p named (store s') := by
  cases hrun with
  | started start => exact (start.atMostBegun h).imp_right fun begun => ⟨fun _ hnamed => (nomatch hnamed), begun⟩
  | unread read => exact .inl (h.kept read id)
  | found read owned => exact .inl (h.kept read id)
  | forbidden read foreign => exact .inl (h.kept read id)
  | absent read start =>
    have habsent := h.found read
    have hstart := start.atMostBegun h
    rw [h.kept read id] at hstart
    refine hstart.imp_right fun begun => ⟨fun _ hnamed => ?_, begun⟩
    cases hnamed
    exact habsent

lemma RefusedRun.atMostBegun (h : Fallible κ store) {t e} (hrun : RefusedRun κ o p q s t e s') :
    (store s).AtMostBegun p q.conversation (store s') := by
  cases hrun with
  | invalid bad => exact .inl rfl
  | unresolved valid resolved =>
    obtain ⟨x, -, resolved⟩ := runs_resolve resolved
    exact resolved.atMostBegun h
  | unread valid resolved read =>
    obtain ⟨x, -, resolved⟩ := runs_resolve resolved
    rw [h.kept read id]
    exact resolved.atMostBegun h

lemma ReadyRun.atMostBegun (h : Fallible κ store) {t id ms} (hrun : ReadyRun κ o p q s t id ms s') :
    (store s).AtMostBegun p q.conversation (store s') := by
  obtain ⟨valid, resolved, read⟩ := hrun
  obtain ⟨x, -, resolved⟩ := runs_resolve resolved
  rw [h.kept read fun hwrites => hwrites]
  exact resolved.atMostBegun h

lemma FailedRun.atMostBegun (h : Fallible κ store) {t e} (hrun : FailedRun κ o p q s t e s') :
    (store s).AtMostBegun p q.conversation (store s') := by
  cases hrun with
  | refused refused => exact refused.atMostBegun h
  | unanswered ready asking only failure =>
    rw [h.runs_kept asking fun x hx => asking_not_writes (only x hx)]
    exact ready.atMostBegun h

/-- A run that fails keeps no answer. -/
lemma FailedRun.unkept {t e} (hrun : FailedRun κ o p q s t e s') : ∀ x ∈ t, ¬ Keeping x.call := by
  cases hrun with
  | refused refused => exact fun x hx => preparing_not_keeping (refused.preparing x hx)
  | unanswered ready asking only failure =>
    intro x hx
    rcases List.mem_append.mp hx with hx | hx
    · exact preparing_not_keeping (ready.preparing x hx)
    · exact asking_not_keeping (only x hx)

/-! ### Why a run fails -/

/-- Why a run has failed, and what it has done if its caller is to blame. -/
inductive Cause (κ : Conduct σ) (p : Principal) (q : PipelineRequest) (s : σ) :
    List (Event σ) → PipelineError → σ → Prop
  | invalid {reason} : Cause κ p q s [] (.invalidRequest reason) s
  | forbidden {id c s'} (named : q.conversation = some id) (foreign : c.owner ≠ p)
      (read : κ (.findConversation id) s (.ok (some c)) s') :
      Cause κ p q s [⟨.findConversation id, .ok (some c), s'⟩] (.conversationForbidden id.text) s'
  | store {t e s'} : Cause κ p q s t (.store e) s'
  | backend {t e s'} : Cause κ p q s t (.backend e) s'
  | cancelled {t s'} : Cause κ p q s t .cancelled s'

lemma StartRun.error {t e} (h : StartRun κ p s t (.error e) s') : ∃ d, e = .store d := by
  generalize hx : Except.error e = x at h
  obtain ⟨drawn, clock, entered⟩ := h
  rename_i x
  cases x with
  | error d => cases hx; exact ⟨d, rfl⟩
  | ok u => cases hx

lemma ResolveRun.cause {t e} (h : ResolveRun κ p s q.conversation t (.error e) s') : Cause κ p q s t e s' := by
  generalize hnamed : q.conversation = named at h
  cases h with
  | started start =>
    obtain ⟨d, rfl⟩ := start.error
    exact .store
  | unread read => exact .store
  | forbidden read foreign => exact .forbidden hnamed (by simpa [Conversation.isOwnedBy] using foreign) read
  | absent read start =>
    obtain ⟨d, rfl⟩ := start.error
    exact .store

lemma validate_error {e : PipelineError} (h : o.validate q = .error e) : ∃ reason, e = .invalidRequest reason := by
  unfold validate Prompt.check at h
  split at h
  · cases h
    exact ⟨_, rfl⟩
  · split at h
    · cases h
      exact ⟨_, rfl⟩
    · cases h

lemma FailedRun.cause {t e} (h : FailedRun κ o p q s t e s') : Cause κ p q s t e s' := by
  cases h with
  | refused refused =>
    cases refused with
    | invalid bad =>
      obtain ⟨reason, rfl⟩ := validate_error bad
      exact .invalid
    | unresolved valid resolved =>
      obtain ⟨x, hx, resolved⟩ := runs_resolve resolved
      cases hx
      exact resolved.cause
    | unread valid resolved read => exact .store
  | unanswered ready asking only failure =>
    rcases failure with rfl | ⟨d, rfl⟩
    · exact .cancelled
    · exact .backend

/-! ### No trace -/

/-- A run that has failed has left no trace but perhaps an empty conversation. -/
structure Traceless (store : σ → Conversations) (p : Principal) (q : PipelineRequest) (s : σ) (t : List (Event σ))
    (e : PipelineError) (s' : σ) : Prop where
  /-- Nothing was to go on record or into the cache. -/
  unkept : ∀ x ∈ t, ¬ Keeping x.call
  atMostBegun : (store s).AtMostBegun p q.conversation (store s')
  /-- A caller who named a conversation of somebody else has had it looked up, and that is all. -/
  forbidden : ∀ text, e = .conversationForbidden text → store s' = store s ∧
    ∃ id c, q.conversation = some id ∧ c.owner ≠ p ∧ t = [⟨.findConversation id, .ok (some c), s'⟩]
  /-- A request that is no good has come to no collaborator. -/
  invalid : ∀ reason, e = .invalidRequest reason → t = [] ∧ s' = s

/-- Whatever fails, and wherever, whole answers and streamed ones leave no trace when they fail. -/
theorem failure_traceless (h : Fallible κ store) (hsink : ∀ f, (sink f).Only Consuming) {t e}
    (hrun : Runs κ (o.complete p q) s t (some (.error e)) s' ∨ Runs κ (o.stream sink p q) s t (some (.error e)) s') :
    Traceless store p q s t e s' := by
  have hfailed : FailedRun κ o p q s t e s' := by
    rcases hrun with hrun | hrun
    · obtain ⟨x, hx, hrun⟩ := runs_complete hrun
      cases hx
      exact hrun.failedRun
    · exact (runs_stream hrun).failedRun hsink
  refine ⟨hfailed.unkept, hfailed.atMostBegun h, ?_, ?_⟩
  · rintro text rfl
    cases hfailed.cause with
    | forbidden named foreign read => exact ⟨h.kept read id, _, _, named, foreign, rfl⟩
  · rintro reason rfl
    cases hfailed.cause with
    | invalid => exact ⟨rfl, rfl⟩

/-! A stream that breaks off in a conversation of its own: the conversation stays, and is empty. -/

lemma parted_fallible : Fallible parted fun s => .memory s.1 where
  found := by
    intro id s x s' h
    exact congrArg Prod.fst h
  created := by
    intro c s a s' h
    obtain ⟨rfl, rfl⟩ := Prod.ext_iff.mp h
    exact .inl rfl
  kept := by
    intro c s a s' h hc
    obtain ⟨rfl, rfl⟩ := Prod.ext_iff.mp h
    cases c <;> first | rfl | exact (hc trivial).elim

theorem failure_traceless_parting :
    Traceless (fun s => .memory s.1) ⟨"alice"⟩ greetingQuery (.empty, false) partingRun.1 .cancelled partingRun.2.2 ∧
      partingRun.2.2.1.conversations.size = 1 ∧ partingRun.2.2.1.messages = [] := by
  have hrun : Runs parted (greeter.stream (fun f => perform (.offer f)) ⟨"alice"⟩ greetingQuery) (.empty, false)
      partingRun.1 (some (.error .cancelled)) partingRun.2.2 := record_runs (fun _ _ => rfl) _ _
  exact ⟨failure_traceless parted_fallible (fun f => .perform trivial) (.inr hrun), rfl, rfl⟩

end Orchestrator
end CompletionGateway
