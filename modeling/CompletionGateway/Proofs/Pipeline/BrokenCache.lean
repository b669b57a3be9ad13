import CompletionGateway.Cache.KeyValue
import CompletionGateway.Proofs.Gateway.StreamFidelity
import CompletionGateway.Proofs.Pipeline.Transcript
import CompletionGateway.Proofs.Program.Likeness

/-! A cache that is no use. A run whose read of the cache finds nothing, fails or finds no answer in what it gets is the
run with a cache that is turned off, whatever the cache does with what it is given. -/
namespace CompletionGateway
open Program Gateway

namespace Cache

/-- What serves as a cache, over a state of its own. -/
structure Backend (τ : Type) where
  get : String → τ → Except CacheError (Option (List UInt8)) × τ
  set : String → List UInt8 → Nat → τ → Except CacheError Unit × τ
  ping : τ → Except CacheError Unit × τ

/-- The backends at hand, at one time. -/
def KeyValue.backend (now : Nat) : Backend KeyValue where
  get key s := s.get now key
  set key value ttl s := s.set now key value ttl
  ping s := (s.ping, s)

/-- Collaborators with a cache among them. -/
def Backend.among {σ τ : Type} (b : Backend τ) (others : Handler σ) : Handler (σ × τ)
  | .readCache key, (s, k) => let r := b.get key k; (r.1, (s, r.2))
  | .writeCache key value ttl, (s, k) => let r := b.set key value ttl k; (r.1, (s, r.2))
  | .pingCache, (s, k) => let r := b.ping k; (r.1, (s, r.2))
  | c, (s, k) => let r := others c s; (r.1, (r.2, k))

/-- A read that is no use: it finds nothing, it fails, or what it finds is no answer. -/
inductive Useless : Except CacheError (Option (List UInt8)) → Prop
  | absent : Useless (.ok none)
  | failed (e) : Useless (.error e)
  | illegible {bytes} (h : Json.decodeBytes InferenceResponse.ofTree? bytes = none) : Useless (.ok (some bytes))

end Cache

namespace Orchestrator
open Cache
variable {σ τ : Type} {o : Orchestrator} {p : Principal} {q : PipelineRequest} {s : σ} {k : τ}

lemma useless_iff {a : Except CacheError (Option (List UInt8))} : Useless a ↔ foundAnswer a = none := by
  constructor
  · rintro (_ | _ | h)
    · rfl
    · rfl
    · exact h
  · intro h
    match a with
    | .ok none => exact .absent
    | .ok (some bytes) => exact .illegible h
    | .error e => exact .failed e

/-! ### What is not heeded -/

/-- Reads of the cache are alike if the same answer is found, and whatever else it may say is alike. -/
def CacheAside : Likeness
  | .readCache _, a, a' => foundAnswer a = foundAnswer a'
  | .writeCache _ _ _, _, _ => True
  | .pingCache, _, _ => True
  | _, a, a' => a = a'

lemma cacheAside_preparing {c : Call} (h : Preparing c) {a a'} (ha : CacheAside c a a') : a = a' := by
  cases c <;> first | exact ha | exact h.elim

lemma heedless_conclude (f : Fingerprint) (id : ConversationId) (prompt : String) (c : CompletionResponse) :
    (o.conclude f id prompt c).Heedless CacheAside := by
  refine Heedless.perform_heeded (fun ha => ha) fun u => ?_
  refine Heedless.perform_heeded (fun ha => ha) fun l => ?_
  refine Heedless.bind (.perform_bind (fun _ _ _ => rfl) fun w => trivial) fun w => ?_
  refine Heedless.bind (.of_only (persist_only ..) ?_) fun u => trivial
  intro c hc a a' ha
  cases c <;> first | exact ha | exact hc.elim

lemma heedless_lookup (f : Fingerprint) :
    (lookup (Json.decodeBytes InferenceResponse.ofTree?) f).Heedless CacheAside := by
  have hfound : lookup (Json.decodeBytes InferenceResponse.ofTree?) f =
      (perform (.readCache f.key)).bind fun a => .done (foundAnswer a) := by
    refine congrArg (Program.bind _) (funext fun a => ?_)
    match a with
    | .ok (some bytes) => rfl
    | .ok none => rfl
    | .error e => rfl
  rw [hfound]
  exact .perform_bind (fun a a' ha => congrArg Program.done ha) fun a => trivial

/-- A whole answer depends on the cache only by the answer that is found there. -/
theorem heedless_complete : (o.complete p q).Heedless CacheAside := by
  refine Heedless.andThen trivial fun _ => ?_
  refine Heedless.andThen (.of_only (resolve_only p q.conversation) cacheAside_preparing) fun id => ?_
  refine Heedless.andThen (.of_only ?_ cacheAside_preparing) fun turns => ?_
  · refine (history_only o.historyLimit id q.prompt).bind ?_
    rintro (e | ts) <;> trivial
  refine Heedless.bind (heedless_lookup _) ?_
  rintro (_ | hit)
  · refine Heedless.perform_heeded (fun ha => ha) ?_
    rintro (e | c)
    · trivial
    · exact heedless_conclude ..
  · exact Heedless.perform_heeded (fun ha => ha) fun l => trivial

/-! ### Where failures come from -/

/-- A failure that the request itself, an answer of the store or an answer of the backend accounts for. -/
inductive Accounted (o : Orchestrator) (p : Principal) (q : PipelineRequest) (t : List (Event σ)) : PipelineError → Prop
  | invalid {e} (bad : o.validate q = .error e) : Accounted o p q t e
  | forbidden {id c m} (named : q.conversation = some id) (foreign : c.isOwnedBy p = false)
      (read : ⟨.findConversation id, .ok (some c), m⟩ ∈ t) : Accounted o p q t (.conversationForbidden id.text)
  | unfound {id d m} (read : ⟨.findConversation id, .error d, m⟩ ∈ t) : Accounted o p q t (.store d)
  | unbegun {c d m} (entered : ⟨.createConversation c, .error d, m⟩ ∈ t) : Accounted o p q t (.store d)
  | unread {id d m} (read : ⟨.listMessages id, .error d, m⟩ ∈ t) : Accounted o p q t (.store d)
  | unanswered {r d m} (asked : ⟨.complete r, .error d, m⟩ ∈ t) : Accounted o p q t (.backend d)

variable {κ : Conduct σ} {s' : σ} {t : List (Event σ)}

lemma StartRun.accounted {e} {u : List (Event σ)} (h : StartRun κ p s t (.error e) s') (ht : t ⊆ u) :
    Accounted o p q u e := by
  generalize hx : Except.error e = x at h
  obtain ⟨drawn, clock, entered⟩ := h
  rename_i x
  cases x with
  | error d =>
    cases hx
    exact .unbegun (ht (List.mem_cons_of_mem _ (List.mem_cons_of_mem _ List.mem_cons_self)))
  | ok u => cases hx

lemma ResolveRun.accounted {e} {u : List (Event σ)} (h : ResolveRun κ p s q.conversation t (.error e) s') (ht : t ⊆ u) :
    Accounted o p q u e := by
  generalize hnamed : q.conversation = named at h
  cases h with
  | started start => exact start.accounted ht
  | unread read => exact .unfound (ht List.mem_cons_self)
  | forbidden read foreign => exact .forbidden hnamed foreign (ht List.mem_cons_self)
  | absent read start => exact start.accounted fun x hx => ht (List.mem_cons_of_mem _ hx)

lemma CompleteRun.accounted {e} (h : CompleteRun κ o p q s t (.error e) s') : Accounted o p q t e := by
  cases h with
  | refused refused =>
    cases refused with
    | invalid bad => exact .invalid bad
    | unresolved valid resolved =>
      obtain ⟨x, hx, resolved⟩ := runs_resolve resolved
      cases hx
      exact resolved.accounted fun _ => id
    | unread valid resolved read => exact .unread (List.mem_append_right _ List.mem_cons_self)
  | failed ready looked missed asked =>
    exact .unanswered (List.mem_append_right _ (List.mem_cons_of_mem _ List.mem_cons_self))

/-! ### The cache that is turned off -/

/-- The states agree but for the cache, which is turned off in the second. -/
def CacheOff (m : σ × τ) (m' : σ × KeyValue) : Prop := m.1 = m'.1 ∧ m'.2 = .disabled

/-- A call among collaborators with a cache that is no use, and the same call with the cache turned off. -/
lemma among_alike {outside : Handler σ} {b : Backend τ} {now : Nat} {c : Call} {m : σ × τ} {m' : σ × KeyValue}
    (huseless : ∀ key, c = .readCache key → Useless (b.get key m.2).1) (hm : CacheOff m m') :
    CacheAside c (b.among outside c m).1 ((KeyValue.backend now).among outside c m').1 ∧
      CacheOff (b.among outside c m).2 ((KeyValue.backend now).among outside c m').2 := by
  obtain ⟨s, k⟩ := m
  obtain ⟨s', k'⟩ := m'
  obtain ⟨hs, hk⟩ := hm
  obtain rfl : s = s' := hs
  obtain rfl : k' = .disabled := hk
  cases c with
  | readCache key => exact ⟨useless_iff.mp (huseless key rfl), rfl, rfl⟩
  | writeCache key value ttl => exact ⟨trivial, rfl, rfl⟩
  | pingCache => exact ⟨trivial, rfl, rfl⟩
  | _ => exact ⟨rfl, rfl, rfl⟩

lemma asked?_alike {e : Event (σ × τ)} {e' : Event (σ × KeyValue)} (h : Event.Alike CacheAside CacheOff e e') :
    asked? e = asked? e' := by
  obtain @⟨c, a, a', m, m', -, -⟩ := h
  cases c <;> rfl

/-- A run with a cache that is no use, and the run with one that is turned off. -/
structure Unnoticed (o : Orchestrator) (p : Principal) (q : PipelineRequest)
    (broken : RunRecord (σ × τ) InferenceResponse) (off : RunRecord (σ × KeyValue) InferenceResponse) : Prop where
  returned : ∃ x, broken.2.1 = some x
  result : broken.2.1 = off.2.1
  /-- The store, and whatever else is not the cache, is left in the same state. -/
  left : CacheOff broken.2.2 off.2.2
  /-- The backend is asked for the same. -/
  asked : broken.1.filterMap asked? = off.1.filterMap asked?
  calls : List.Forall₂ (Event.Alike CacheAside CacheOff) broken.1 off.1
  /-- No failure is one of the cache. -/
  errors : ∀ e, broken.2.1 = some (.error e) → Accounted o p q broken.1 e

/-- A cache that is no use to a run is to its caller, to the backend and to the store a cache that is turned off. -/
theorem useless_cache_unnoticed (outside : Handler σ) (b : Backend τ) (now : Nat) (s : σ) (k : τ)
    (huseless : ∀ key a m, ⟨.readCache key, a, m⟩ ∈ ((o.complete p q).record (b.among outside) (s, k)).1 → Useless a) :
    Unnoticed o p q ((o.complete p q).record (b.among outside) (s, k))
      ((o.complete p q).record ((KeyValue.backend now).among outside) (s, .disabled)) := by
  have step : ∀ c m m', CacheOff m m' → ⟨c, (b.among outside c m).1, (b.among outside c m).2⟩ ∈
        ((o.complete p q).record (b.among outside) (s, k)).1 →
      CacheAside c (b.among outside c m).1 ((KeyValue.backend now).among outside c m').1 ∧
        CacheOff (b.among outside c m).2 ((KeyValue.backend now).among outside c m').2 := by
    intro c m m' hm he
    refine among_alike ?_ hm
    rintro key rfl
    exact huseless key _ _ he
  obtain ⟨calls, result, left⟩ := heedless_complete.record _ _ CacheOff (s, k) (s, .disabled) ⟨rfl, rfl⟩ step
  obtain ⟨x, hx, hcourse⟩ := runs_complete (runs_of_record (h := b.among outside) (p := o.complete p q) (s := (s, k)) rfl)
  refine ⟨⟨x, hx⟩, result, left, filterMap_alike asked?_alike calls, calls, ?_⟩
  intro e he
  obtain rfl := Option.some.inj (hx.symm.trans he)
  exact hcourse.accounted

/-! A cache that holds rubbish under every key and takes nothing. -/

def rubbish : Backend Unit := ⟨fun _ u => (.ok (some [0x7b]), u), fun _ _ _ u => (.error ⟨"full"⟩, u),
  fun u => (.error ⟨"full"⟩, u)⟩

/-- A store in memory, and a backend that greets. -/
def greeting : Handler Store.Memory := Store.Memory.steady ⟨"", "Hi there", "m", none, none⟩ ⟨[], .finished⟩

lemma rubbish_useless {α : Type} {f : Program α} {s : Store.Memory × Unit} :
    ∀ key a m, ⟨.readCache key, a, m⟩ ∈ (f.record (rubbish.among greeting) s).1 → Useless a := by
  induction f generalizing s with
  | done a => simp [record]
  | stuck => simp [record]
  | call c next ih =>
    intro key a m h
    rcases List.mem_cons.mp h with h | h
    · cases h
      exact .illegible rfl
    · exact ih _ key a m h

theorem useless_cache_unnoticed_rubbish :
    Unnoticed greeter ⟨"alice"⟩ greetingQuery
      ((greeter.complete ⟨"alice"⟩ greetingQuery).record (rubbish.among greeting) (.empty, ()))
      ((greeter.complete ⟨"alice"⟩ greetingQuery).record ((KeyValue.backend 0).among greeting) (.empty, .disabled)) ∧
    ((greeter.complete ⟨"alice"⟩ greetingQuery).record (rubbish.among greeting) (.empty, ())).2.2.1.messages.map
      Message.turn = [⟨.user, "Hello"⟩, ⟨.assistant, "Hi there"⟩] :=
  ⟨useless_cache_unnoticed greeting rubbish 0 .empty () rubbish_useless, rfl⟩

end Orchestrator
end CompletionGateway
