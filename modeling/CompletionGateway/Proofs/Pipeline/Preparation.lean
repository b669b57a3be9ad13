import CompletionGateway.Pipeline.Orchestrator
import CompletionGateway.Proofs.Program.Runs

/-! What a run of the orchestrator does before it asks cache or backend, whatever its collaborators do: the prompt is
checked, the conversation found or started, and its messages are read. Each course lists its calls in order, so that
later proofs need not open the orchestrator again. -/
namespace CompletionGateway
open Program

namespace Attempt
variable {α β σ : Type} {κ : Conduct σ}

lemma runs_andThen {p : Attempt α} {f : α → Attempt β} {s t r s'} :
    Runs κ (andThen p f) s t r s' ↔
      (∃ a m t₁ t₂, Runs κ p s t₁ (some (.ok a)) m ∧ Runs κ (f a) m t₂ r s' ∧ t = t₁ ++ t₂) ∨
      (∃ e, Runs κ p s t (some (.error e)) s' ∧ r = some (.error e)) ∨
      (Runs κ p s t none s' ∧ r = none) := by
  rw [andThen, runs_bind]
  constructor
  · rintro (⟨x, m, t₁, t₂, hp, hf, rfl⟩ | h)
    · cases x with
      | ok a => exact .inl ⟨a, m, t₁, t₂, hp, hf, rfl⟩
      | error e =>
        obtain ⟨rfl, rfl, rfl⟩ := runs_done.mp hf
        exact .inr (.inl ⟨e, by simpa using hp, rfl⟩)
    · exact .inr (.inr h)
  · rintro (⟨a, m, t₁, t₂, hp, hf, rfl⟩ | ⟨e, hp, rfl⟩ | h)
    · exact .inl ⟨.ok a, m, t₁, t₂, hp, hf, rfl⟩
    · exact .inl ⟨.error e, s', t, [], hp, .done _ _, by simp⟩
    · exact .inr h

lemma runs_ofStore {p : Program (Except StoreError α)} {s t r s'} :
    Runs κ (ofStore p) s t r s' ↔
      (∃ x, Runs κ p s t (some x) s' ∧ r = some (x.mapError .store)) ∨ (Runs κ p s t none s' ∧ r = none) := by
  rw [ofStore, runs_bind]
  constructor
  · rintro (⟨x, m, t₁, t₂, hp, hf, rfl⟩ | h)
    · cases x with
      | ok a =>
        obtain ⟨rfl, rfl, rfl⟩ := runs_done.mp hf
        exact .inl ⟨.ok a, by simpa using hp, rfl⟩
      | error e =>
        obtain ⟨rfl, rfl, rfl⟩ := runs_done.mp hf
        exact .inl ⟨.error e, by simpa using hp, rfl⟩
    · exact .inr h
  · rintro (⟨x, hp, rfl⟩ | h)
    · cases x with
      | ok a => exact .inl ⟨.ok a, s', t, [], hp, .done _ _, by simp⟩
      | error e => exact .inl ⟨.error e, s', t, [], hp, .done _ _, by simp⟩
    · exact .inr h

end Attempt

namespace Orchestrator
variable {σ : Type} {κ : Conduct σ}

/-! ### Finding or starting the conversation -/

/-- A run that starts a conversation: an identifier, the time, and the entry into the record. -/
inductive StartRun (κ : Conduct σ) (p : Principal) (s : σ) :
    List (Event σ) → Except PipelineError ConversationId → σ → Prop
  | mk {id m now m' x s'} (drawn : κ .freshConversation s id m) (clock : κ .wallClock m now m')
      (entered : κ (.createConversation (.start id now p)) m' x s') :
      StartRun κ p s [⟨.freshConversation, id, m⟩, ⟨.wallClock, now, m'⟩,
        ⟨.createConversation (.start id now p), x, s'⟩] ((x.mapError .store).map fun _ => id) s'

lemma runs_startConversation {p : Principal} {s t r s'} (h : Runs κ (startConversation p) s t r s') :
    ∃ x, r = some x ∧ StartRun κ p s t x s' := by
  obtain ⟨id, m, t₁, drawn, h₁, rfl⟩ := runs_perform_bind.mp h
  obtain ⟨now, m', t₂, clock, h₂, rfl⟩ := runs_perform_bind.mp h₁
  rcases Attempt.runs_andThen.mp h₂ with ⟨a, m'', t₃, t₄, hc, hd, rfl⟩ | ⟨e, hc, rfl⟩ | ⟨hc, rfl⟩
  · obtain ⟨x, hx, he⟩ | ⟨-, he⟩ := Attempt.runs_ofStore.mp hc
    · obtain ⟨x', entered, hx', rfl⟩ := runs_perform.mp hx
      obtain ⟨rfl, rfl, rfl⟩ := runs_done.mp hd
      cases hx'
      cases x with
      | ok u => exact ⟨_, rfl, .mk drawn clock entered⟩
      | error e => cases he
    · cases he
  · obtain ⟨x, hx, he⟩ | ⟨-, he⟩ := Attempt.runs_ofStore.mp hc
    · obtain ⟨x', entered, hx', rfl⟩ := runs_perform.mp hx
      cases hx'
      cases x with
      | ok u => cases he
      | error e' =>
        cases he
        exact ⟨_, rfl, .mk drawn clock entered⟩
    · cases he
  · obtain ⟨x, hx, he⟩ | ⟨hx, -⟩ := Attempt.runs_ofStore.mp hc
    · cases he
    · obtain ⟨x, -, hx, -⟩ := runs_perform.mp hx
      cases hx

/-- A run that finds the conversation of a request. -/
inductive ResolveRun (κ : Conduct σ) (p : Principal) (s : σ) :
    Option ConversationId → List (Event σ) → Except PipelineError ConversationId → σ → Prop
  | started {t x s'} (start : StartRun κ p s t x s') : ResolveRun κ p s none t x s'
  | unread {id e s'} (read : κ (.findConversation id) s (.error e) s') :
      ResolveRun κ p s (some id) [⟨.findConversation id, .error e, s'⟩] (.error (.store e)) s'
  | found {id c s'} (read : κ (.findConversation id) s (.ok (some c)) s') (owned : c.isOwnedBy p = true) :
      ResolveRun κ p s (some id) [⟨.findConversation id, .ok (some c), s'⟩] (.ok c.id) s'
  | forbidden {id c s'} (read : κ (.findConversation id) s (.ok (some c)) s') (foreign : c.isOwnedBy p = false) :
      ResolveRun κ p s (some id) [⟨.findConversation id, .ok (some c), s'⟩]
        (.error (.conversationForbidden id.text)) s'
  | absent {id m t x s'} (read : κ (.findConversation id) s (.ok none) m) (start : StartRun κ p m t x s') :
      ResolveRun κ p s (some id) (⟨.findConversation id, .ok none, m⟩ :: t) x s'

lemma runs_find {id : ConversationId} {s t r s'}
    (h : Runs κ (Attempt.ofStore (perform (.findConversation id))) s t r s') :
    ∃ x : Except StoreError (Option Conversation), κ (.findConversation id) s x s' ∧
      t = [⟨.findConversation id, x, s'⟩] ∧ r = some (x.mapError .store) := by
  rcases Attempt.runs_ofStore.mp h with ⟨x, hx, rfl⟩ | ⟨hx, -⟩
  · obtain ⟨x', read, hx', rfl⟩ := runs_perform.mp hx
    cases hx'
    exact ⟨x, read, rfl, rfl⟩
  · obtain ⟨x, -, hx, -⟩ := runs_perform.mp hx
    cases hx

lemma runs_resolve {p : Principal} {requested : Option ConversationId} {s t r s'}
    (h : Runs κ (resolve p requested) s t r s') : ∃ x, r = some x ∧ ResolveRun κ p s requested t x s' := by
  cases requested with
  | none =>
    obtain ⟨x, rfl, start⟩ := runs_startConversation h
    exact ⟨x, rfl, .started start⟩
  | some id =>
    rcases Attempt.runs_andThen.mp h with ⟨found, m, t₁, t₂, hf, hc, rfl⟩ | ⟨e, hf, rfl⟩ | ⟨hf, rfl⟩
    · obtain ⟨x, read, rfl, hx⟩ := runs_find hf
      cases x with
      | error e => cases hx
      | ok x =>
        cases hx
        cases found with
        | none =>
          obtain ⟨x, rfl, start⟩ := runs_startConversation hc
          exact ⟨x, rfl, .absent read start⟩
        | some c =>
          dsimp only at hc
          split at hc
          · rename_i owned
            obtain ⟨rfl, rfl, rfl⟩ := runs_done.mp hc
            exact ⟨_, rfl, .found read owned⟩
          · rename_i foreign
            obtain ⟨rfl, rfl, rfl⟩ := runs_done.mp hc
            exact ⟨_, rfl, .forbidden read (by simpa using foreign)⟩
    · obtain ⟨x, read, rfl, hx⟩ := runs_find hf
      cases x with
      | error e => cases hx; exact ⟨_, rfl, .unread read⟩
      | ok x => cases hx
    · obtain ⟨x, -, -, hx⟩ := runs_find hf
      cases hx

/-- The calls that a run makes before it asks cache or backend. -/
def Preparing : Call → Prop
  | .findConversation _ => True
  | .createConversation _ => True
  | .listMessages _ => True
  | .freshConversation => True
  | .wallClock => True
  | _ => False

lemma startConversation_only (p : Principal) : (startConversation p).Only Preparing := by
  refine Only.bind (.perform trivial) fun id => Only.bind (.perform trivial) fun now => ?_
  refine Only.bind (Only.bind (.perform trivial) ?_) ?_
  · rintro (e | u) <;> trivial
  · rintro (e | u) <;> trivial

lemma resolve_only (p : Principal) (requested : Option ConversationId) : (resolve p requested).Only Preparing := by
  cases requested with
  | none => exact startConversation_only p
  | some id =>
    refine Only.bind (Only.bind (.perform trivial) ?_) ?_
    · rintro (e | x) <;> trivial
    · rintro (e | (_ | c))
      · trivial
      · exact startConversation_only p
      · dsimp only
        split <;> trivial

/-! ### The turns on record -/

lemma runs_history {limit : Nat} {id : ConversationId} {prompt : String} {s t r s'}
    (h : Runs κ (Context.history limit id prompt) s t r s') :
    ∃ x : Except StoreError (List Message), κ (.listMessages id) s x s' ∧ t = [⟨.listMessages id, x, s'⟩] ∧
      r = some (x.map (Context.historyOf limit · prompt)) := by
  obtain ⟨x, m, t', read, hx, rfl⟩ := runs_perform_bind.mp h
  cases x with
  | ok ms => obtain ⟨rfl, rfl, rfl⟩ := runs_done.mp hx; exact ⟨.ok ms, read, rfl, rfl⟩
  | error e => obtain ⟨rfl, rfl, rfl⟩ := runs_done.mp hx; exact ⟨.error e, read, rfl, rfl⟩

lemma runs_build {i : Injector} {limit : Nat} {id : ConversationId} {prompt : String} {s t r s'}
    (h : Runs κ (Context.build i limit id prompt) s t r s') :
    ∃ x : Except StoreError (List Message), κ (.listMessages id) s x s' ∧ t = [⟨.listMessages id, x, s'⟩] ∧
      r = some (x.map fun ms => i.inject (Context.historyOf limit ms prompt)) := by
  rcases runs_bind.mp h with ⟨y, m, t₁, t₂, hh, hd, rfl⟩ | ⟨hh, -⟩
  · obtain ⟨x, read, rfl, hy⟩ := runs_history hh
    cases hy
    cases x with
    | ok ms => obtain ⟨rfl, rfl, rfl⟩ := runs_done.mp hd; exact ⟨.ok ms, read, rfl, rfl⟩
    | error e => obtain ⟨rfl, rfl, rfl⟩ := runs_done.mp hd; exact ⟨.error e, read, rfl, rfl⟩
  · obtain ⟨x, -, -, hx⟩ := runs_history hh
    cases hx

lemma history_only (limit : Nat) (id : ConversationId) (prompt : String) :
    (Context.history limit id prompt).Only Preparing := by
  refine Only.bind (.perform trivial) ?_
  rintro (e | ms) <;> trivial

/-! ### What comes before the backend is asked -/

/-- A run that is refused before anything is asked of cache or backend. -/
inductive RefusedRun (κ : Conduct σ) (o : Orchestrator) (p : Principal) (q : PipelineRequest) (s : σ) :
    List (Event σ) → PipelineError → σ → Prop
  | invalid {e} (bad : o.validate q = .error e) : RefusedRun κ o p q s [] e s
  | unresolved {t e s'} (valid : o.validate q = .ok ())
      (resolved : Runs κ (resolve p q.conversation) s t (some (.error e)) s') : RefusedRun κ o p q s t e s'
  | unread {id t m e s'} (valid : o.validate q = .ok ())
      (resolved : Runs κ (resolve p q.conversation) s t (some (.ok id)) m)
      (read : κ (.listMessages id) m (.error e) s') :
      RefusedRun κ o p q s (t ++ [⟨.listMessages id, .error e, s'⟩]) (.store e) s'

/-- The start of a run that has found its conversation and the messages of it. -/
inductive ReadyRun (κ : Conduct σ) (o : Orchestrator) (p : Principal) (q : PipelineRequest) (s : σ) :
    List (Event σ) → ConversationId → List Message → σ → Prop
  | mk {id t m ms s'} (valid : o.validate q = .ok ())
      (resolved : Runs κ (resolve p q.conversation) s t (some (.ok id)) m)
      (read : κ (.listMessages id) m (.ok ms) s') :
      ReadyRun κ o p q s (t ++ [⟨.listMessages id, .ok ms, s'⟩]) id ms s'

lemma RefusedRun.preparing {o : Orchestrator} {p : Principal} {q : PipelineRequest} {s : σ} {t e s'}
    (h : RefusedRun κ o p q s t e s') : ∀ x ∈ t, Preparing x.call := by
  cases h with
  | invalid bad => simp
  | unresolved valid resolved => exact resolved.only (resolve_only p q.conversation)
  | unread valid resolved read =>
    intro x hx
    rcases List.mem_append.mp hx with hx | hx
    · exact resolved.only (resolve_only p q.conversation) x hx
    · obtain rfl := List.mem_singleton.mp hx
      trivial

lemma ReadyRun.preparing {o : Orchestrator} {p : Principal} {q : PipelineRequest} {s : σ} {t id ms s'}
    (h : ReadyRun κ o p q s t id ms s') : ∀ x ∈ t, Preparing x.call := by
  obtain ⟨valid, resolved, read⟩ := h
  intro x hx
  rcases List.mem_append.mp hx with hx | hx
  · exact resolved.only (resolve_only p q.conversation) x hx
  · obtain rfl := List.mem_singleton.mp hx
    trivial

lemma ReadyRun.mono {κ' : Conduct σ} (hκ : ∀ {c s a s'}, κ c s a s' → κ' c s a s') {o : Orchestrator} {p : Principal}
    {q : PipelineRequest} {s : σ} {t id ms s'} (h : ReadyRun κ o p q s t id ms s') :
    ReadyRun κ' o p q s t id ms s' := by
  obtain ⟨valid, resolved, read⟩ := h
  exact .mk valid (resolved.mono hκ) (hκ read)

/-- What a run has found before it asks cache or backend is settled by its calls. -/
lemma ReadyRun.unique {o : Orchestrator} {p : Principal} {q : PipelineRequest} {s : σ} {t id ms m t' id' ms' m' u u'}
    (h : ReadyRun κ o p q s t id ms m) (h' : ReadyRun κ o p q s t' id' ms' m') (htu : t ++ u = t' ++ u') :
    t = t' ∧ id = id' ∧ ms = ms' ∧ m = m' := by
  obtain ⟨-, resolved, read⟩ := h
  obtain ⟨-, resolved', read'⟩ := h'
  rw [List.append_assoc, List.append_assoc] at htu
  obtain ⟨rfl, hid, rfl⟩ := resolved.prefix_free resolved' htu
  obtain rfl := Except.ok.inj (Option.some.inj hid)
  obtain ⟨hread, -⟩ := List.cons.inj (List.append_cancel_left htu)
  cases hread
  exact ⟨rfl, rfl, rfl, rfl⟩

/-- A run that checks the prompt, finds the conversation and reads its messages before it goes on. -/
lemma runs_prepared {α : Type} {o : Orchestrator} {p : Principal} {q : PipelineRequest} {g : List Message → List Turn}
    {turns : ConversationId → Program (Except StoreError (List Turn))} {f : ConversationId → List Turn → Attempt α}
    (hg : ∀ {id s t r s'}, Runs κ (turns id) s t r s' → ∃ x : Except StoreError (List Message),
      κ (.listMessages id) s x s' ∧ t = [⟨.listMessages id, x, s'⟩] ∧ r = some (x.map g)) {s t r s'}
    (h : Runs κ (Attempt.andThen (.done (o.validate q)) fun _ => Attempt.andThen (resolve p q.conversation) fun id =>
      Attempt.andThen (Attempt.ofStore (turns id)) (f id)) s t r s') :
    (∃ e, RefusedRun κ o p q s t e s' ∧ r = some (.error e)) ∨
    ∃ id ms t₁ t₂ m, ReadyRun κ o p q s t₁ id ms m ∧ Runs κ (f id (g ms)) m t₂ r s' ∧ t = t₁ ++ t₂ := by
  have hread : ∀ {id s t r s'}, Runs κ (Attempt.ofStore (turns id)) s t r s' →
      ∃ x : Except StoreError (List Message), κ (.listMessages id) s x s' ∧ t = [⟨.listMessages id, x, s'⟩] ∧
        r = some ((x.map g).mapError .store) := by
    intro id s t r s' h
    rcases Attempt.runs_ofStore.mp h with ⟨y, hy, rfl⟩ | ⟨hy, -⟩
    · obtain ⟨x, read, rfl, hx⟩ := hg hy
      cases hx
      exact ⟨x, read, rfl, rfl⟩
    · obtain ⟨x, -, -, hx⟩ := hg hy
      cases hx
  rcases Attempt.runs_andThen.mp h with ⟨u, m, t₁, t₂, hv, h₁, rfl⟩ | ⟨e, hv, rfl⟩ | ⟨hv, -⟩
  · obtain ⟨rfl, valid, rfl⟩ := runs_done.mp hv
    replace valid := (Option.some.inj valid).symm
    rcases Attempt.runs_andThen.mp h₁ with ⟨id, m', t₃, t₄, hr, h₂, rfl⟩ | ⟨e, hr, rfl⟩ | ⟨hr, -⟩
    · rcases Attempt.runs_andThen.mp h₂ with ⟨ts, m'', t₅, t₆, hl, h₃, rfl⟩ | ⟨e, hl, rfl⟩ | ⟨hl, -⟩
      · obtain ⟨x, read, rfl, hx⟩ := hread hl
        cases x with
        | error e => cases hx
        | ok ms =>
          cases hx
          exact .inr ⟨id, ms, _, t₆, m'', .mk valid hr read, h₃, by simp⟩
      · obtain ⟨x, read, rfl, hx⟩ := hread hl
        cases x with
        | ok ms => cases hx
        | error e =>
          cases hx
          exact .inl ⟨_, .unread valid hr read, rfl⟩
      · obtain ⟨x, -, -, hx⟩ := hread hl
        cases hx
    · exact .inl ⟨e, .unresolved valid hr, rfl⟩
    · obtain ⟨x, hx, -⟩ := runs_resolve hr
      cases hx
  · obtain ⟨rfl, bad, rfl⟩ := runs_done.mp hv
    exact .inl ⟨e, .invalid (Option.some.inj bad).symm, rfl⟩
  · cases (runs_done.mp hv).2.1

end Orchestrator
end CompletionGateway
