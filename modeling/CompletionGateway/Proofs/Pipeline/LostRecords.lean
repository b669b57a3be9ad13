import CompletionGateway.Proofs.Pipeline.Relaying
import CompletionGateway.Proofs.Program.Likeness
import CompletionGateway.Store.Conversations

/-! Appends that fail. A run settles what it returns before it puts prompt and answer on record, and does not heed what
becomes of them: whichever appends fail, it makes the same calls, and the store has those messages that it took. -/
namespace CompletionGateway
open Program Store Store.Memory Gateway

namespace Store.Conversations

/-- The store has these messages more than before. Tables hold them as rows. -/
def Gains : Conversations → List Message → Conversations → Prop
  | .memory s, ms, .memory s' => s'.messages = s.messages ++ ms
  | .relational t, ms, .relational t' => t'.messages = t.messages ++ ms.map fun m => (MessageRow.ofMessage m).held
  | _, _, _ => False

/-- Append messages one after the other. -/
def keep (s : Conversations) (ms : List Message) : Conversations := ms.foldl (fun s m => (s.append m).2) s

variable {s m s' : Conversations} {xs ys : List Message}

lemma gains_nil (s : Conversations) : s.Gains [] s := by
  cases s <;> exact (List.append_nil _).symm

lemma Gains.trans (h : s.Gains xs m) (h' : m.Gains ys s') : s.Gains (xs ++ ys) s' := by
  cases s <;> cases m <;> cases s' <;> simp_all [Gains]

lemma create_gains (s : Conversations) (c : Conversation) : s.Gains [] (s.create c).2 := by
  cases s with
  | memory s => simp [create, Gains]
  | relational t =>
    unfold create Relational.create Relational.insertConversation?
    dsimp only
    split
    · rename_i h
      split at h
      · cases h
      · cases h
        simp [Gains]
    · exact gains_nil _

/-- A message is appended, or it is refused and nothing happens. -/
lemma append_cases (s : Conversations) (x : Message) :
    ((s.append x).1 = .ok () ∧ s.Gains [x] (s.append x).2) ∨
    ((∃ e, (s.append x).1 = .error e) ∧ (s.append x).2 = s) := by
  cases s with
  | memory s =>
    cases hx : s.find? x.conversation with
    | none => exact .inr (by simp [append, append_absent hx])
    | some c => exact .inl (by simp [append, append_present hx, Gains])
  | relational t =>
    unfold append Relational.append Relational.insertMessage?
    dsimp only
    split
    · exact .inr ⟨⟨_, rfl⟩, rfl⟩
    · split
      · rename_i h
        split at h
        · cases h
        · cases h
          exact .inl ⟨rfl, rfl⟩
      · exact .inr ⟨⟨_, rfl⟩, rfl⟩

end Store.Conversations

/-! ### A store some of whose appends fail -/

/-- A store, how its next appends fail unless they do not, and everything else. -/
structure Faltering (ρ : Type) where
  store : Conversations
  faults : List (Option StoreError)
  rest : ρ

namespace Faltering
variable {ρ α : Type}

/-- An append that fails changes nothing. -/
def handle (others : Handler ρ) : Handler (Faltering ρ)
  | .findConversation id, m => (m.store.find id, m)
  | .createConversation c, m => let r := m.store.create c; (r.1, { m with store := r.2 })
  | .appendMessage _, ⟨s, some e :: faults, rest⟩ => (.error e, ⟨s, faults, rest⟩)
  | .appendMessage x, ⟨s, faults, rest⟩ => let r := s.append x; (r.1, ⟨r.2, faults.tail, rest⟩)
  | .listMessages id, m => (m.store.messagesOf id, m)
  | .listConversations p limit, m => (m.store.ownedBy p limit, m)
  | .pingStore, m => (m.store.ping, m)
  | c, m => let r := others c m.rest; (r.1, { m with rest := r.2 })

variable {others : Handler ρ} {m : Faltering ρ}

/-- The call is to put a message on record. -/
def Appending : Call → Prop
  | .appendMessage _ => True
  | _ => False

/-- Faults make no difference to a call that is not to put a message on record. -/
lemma handle_quiet (others : Handler ρ) {c : Call} (hc : ¬ Appending c) (s : Conversations) (rest : ρ) :
    ∃ a s' rest', s.Gains [] s' ∧ ∀ faults, handle others c ⟨s, faults, rest⟩ = (a, ⟨s', faults, rest'⟩) := by
  refine ⟨(handle others c ⟨s, [], rest⟩).1, (handle others c ⟨s, [], rest⟩).2.store,
    (handle others c ⟨s, [], rest⟩).2.rest, ?_, ?_⟩
  · cases c <;> first | exact (hc trivial).elim | exact s.create_gains _ | exact s.gains_nil
  · intro faults
    cases c <;> first | exact (hc trivial).elim | rfl

/-- A message is on record if its append has not failed. -/
lemma handle_append (others : Handler ρ) (m : Faltering ρ) (x : Message) :
    (handle others (.appendMessage x) m).2.rest = m.rest ∧
    ((handle others (.appendMessage x) m).1 = .ok () ∧
      (handle others (.appendMessage x) m).2.store = (m.store.append x).2 ∧ m.store.Gains [x] (m.store.append x).2 ∨
    (∃ e, (handle others (.appendMessage x) m).1 = .error e) ∧
      (handle others (.appendMessage x) m).2.store = m.store) := by
  have hstore := m.store.append_cases x
  match m with
  | ⟨s, some e :: faults, rest⟩ => exact ⟨rfl, .inr ⟨⟨e, rfl⟩, rfl⟩⟩
  | ⟨s, none :: faults, rest⟩ => exact ⟨rfl, hstore.imp (fun h => ⟨h.1, rfl, h.2⟩) id⟩
  | ⟨s, [], rest⟩ => exact ⟨rfl, hstore.imp (fun h => ⟨h.1, rfl, h.2⟩) id⟩

lemma recorded?_quiet {σ : Type} {e : Event σ} (h : ¬ Appending e.call) : recorded? e = none := by
  obtain ⟨c, a, m⟩ := e
  cases c <;> first | rfl | exact (h trivial).elim

/-- What a call has put on record. -/
lemma handle_gains (c : Call) : m.store.Gains
    (recorded? ⟨c, (handle others c m).1, (handle others c m).2⟩).toList (handle others c m).2.store := by
  by_cases hc : Appending c
  · cases c with
    | appendMessage x =>
      obtain ⟨-, ⟨hok, hstore, hgains⟩ | ⟨⟨e, he⟩, hstore⟩⟩ := handle_append others m x
      · rw [hok, hstore]
        exact hgains
      · rw [he, hstore]
        exact m.store.gains_nil
    | _ => exact hc.elim
  · obtain ⟨s, faults, rest⟩ := m
    obtain ⟨a, s', rest', hgains, hcall⟩ := handle_quiet others hc s rest
    rw [recorded?_quiet hc, hcall]
    exact hgains

lemma recorded_call {h : Handler (Faltering ρ)} {c : Call} {next : c.Answer → Program α} :
    ((Program.call c next).record h m).1.filterMap recorded? =
      (recorded? ⟨c, (h c m).1, (h c m).2⟩).toList ++ ((next (h c m).1).record h (h c m).2).1.filterMap recorded? := by
  rw [record, List.filterMap_cons]
  cases recorded? ⟨c, (h c m).1, (h c m).2⟩ <;> rfl

/-- The store has all messages whose appends have not failed, and no others. -/
theorem gains (p : Program α) (m : Faltering ρ) : m.store.Gains
    ((p.record (handle others) m).1.filterMap recorded?) (p.record (handle others) m).2.2.store := by
  induction p generalizing m with
  | done a => exact m.store.gains_nil
  | stuck => exact m.store.gains_nil
  | call c next ih =>
    rw [recorded_call]
    exact (handle_gains c).trans (ih _ _)

/-- What a program does to the store that does no more to it than append. -/
lemma kept {p : Program α} (hp : p.Only Orchestrator.Recording) (m : Faltering ρ) :
    (p.record (handle others) m).2.2.store =
      m.store.keep ((p.record (handle others) m).1.filterMap recorded?) := by
  induction p generalizing m with
  | done a => rfl
  | stuck => rfl
  | call c next ih =>
    obtain ⟨hc, hnext⟩ := hp
    have hstore : (handle others c m).2.store =
        m.store.keep (recorded? ⟨c, (handle others c m).1, (handle others c m).2⟩).toList := by
      cases c with
      | appendMessage x =>
        obtain ⟨-, ⟨hok, hstore, -⟩ | ⟨⟨e, he⟩, hstore⟩⟩ := handle_append others m x
        · rw [hok, hstore]
          rfl
        · rw [he, hstore]
          rfl
      | freshUuid => rfl
      | wallClock => rfl
      | _ => exact hc.elim
    rw [recorded_call, Conversations.keep, List.foldl_append]
    refine (ih _ (hnext _) _).trans ?_
    rw [hstore]
    rfl

end Faltering

/-! ### Programs that put an exchange on record in the end -/

namespace Orchestrator
open Faltering
variable {α β ρ : Type} {o : Orchestrator} {sink : FrameSink} {p : Principal} {q : PipelineRequest}

/-- The program puts an exchange on record right before it returns, or nothing at all. -/
inductive RecordsLast : Attempt α → Prop
  | done (x) : RecordsLast (.done x)
  | stuck : RecordsLast .stuck
  | call {c next} (quiet : ¬ Appending c) (rest : ∀ a, RecordsLast (next a)) : RecordsLast (.call c next)
  | recording (id prompt content model tokens latency a) :
      RecordsLast ((persist id prompt content model tokens latency).bind fun _ => .done (.ok a))

namespace RecordsLast

lemma bind {K : Call → Prop} (hK : ∀ {c}, K c → ¬ Appending c) {f : Program β} {g : β → Attempt α} (hf : f.Only K)
    (hg : ∀ b, RecordsLast (g b)) : RecordsLast (f.bind g) := by
  induction f with
  | done b => exact hg b
  | stuck => exact .stuck
  | call c next ih => exact .call (hK hf.1) fun a => ih a (hf.2 a)

lemma perform_bind {c : Call} {f : c.Answer → Attempt α} (quiet : ¬ Appending c) (rest : ∀ a, RecordsLast (f a)) :
    RecordsLast ((perform c).bind f) := .call quiet rest

lemma andThen {K : Call → Prop} (hK : ∀ {c}, K c → ¬ Appending c) {f : Attempt β} {g : β → Attempt α} (hf : f.Only K)
    (hg : ∀ b, RecordsLast (g b)) : RecordsLast (Attempt.andThen f g) := by
  refine bind hK hf ?_
  rintro (e | b)
  · exact .done _
  · exact hg b

end RecordsLast

lemma preparing_not_appending {c : Call} (h : Preparing c) : ¬ Appending c := by
  cases c <;> first | exact h.elim | exact id

lemma consuming_not_appending {c : Call} (h : Consuming c) : ¬ Appending c := by
  cases c <;> first | exact h.elim | exact id

/-- What comes before cache and backend are asked puts nothing on record. -/
lemma recordsLast_prepared {turns : ConversationId → Program (Except StoreError (List Turn))}
    (hturns : ∀ id, (turns id).Only Preparing) {f : ConversationId → List Turn → Attempt α}
    (hf : ∀ id ts, RecordsLast (f id ts)) : RecordsLast (Attempt.andThen (.done (o.validate q)) fun _ =>
      Attempt.andThen (resolve p q.conversation) fun id => Attempt.andThen (Attempt.ofStore (turns id)) (f id)) := by
  refine .andThen (K := Preparing) preparing_not_appending trivial fun _ => ?_
  refine .andThen preparing_not_appending (resolve_only p q.conversation) fun id => ?_
  refine .andThen preparing_not_appending ((hturns id).bind ?_) (hf id)
  rintro (e | ts) <;> trivial

lemma recordsLast_conclude (f : Cache.Fingerprint) (id : ConversationId) (prompt : String) (c : CompletionResponse) :
    RecordsLast (o.conclude f id prompt c) := by
  refine .perform_bind (fun h => h) fun u => .perform_bind (fun h => h) fun l => ?_
  refine .bind (K := fun c => ¬ Appending c) (fun h => h) (.bind (.perform fun h => h) fun w => ?_) fun w => .recording ..
  trivial

theorem recordsLast_complete : RecordsLast (o.complete p q) := by
  refine recordsLast_prepared (fun id => history_only o.historyLimit id q.prompt) fun id turns => ?_
  refine .bind (K := fun c => ¬ Appending c) (fun h => h) (.bind (.perform fun h => h) ?_) ?_
  · rintro (e | _ | bytes) <;> trivial
  · rintro (_ | hit)
    · refine .perform_bind (fun h => h) ?_
      rintro (e | c)
      · exact .done _
      · exact recordsLast_conclude ..
    · exact .perform_bind (fun h => h) fun l => .done _

theorem recordsLast_stream (hsink : ∀ f, (sink f).Only Consuming) : RecordsLast (o.stream sink p q) := by
  refine recordsLast_prepared ?_ fun id turns => .perform_bind (fun h => h) fun feed => ?_
  · intro id
    refine (history_only o.historyLimit id q.prompt).bind ?_
    rintro (e | ts) <;> trivial
  · refine .bind consuming_not_appending (relayFeed_only hsink id feed) ?_
    rintro (e | text)
    · exact .done _
    · exact .recording ..

/-! ### Two runs -/

/-- Appends are alike whatever becomes of them. -/
def AppendsAside : Likeness
  | .appendMessage _, _, _ => True
  | _, a, a' => a = a'

/-- The states agree but for the store and its faults. -/
def SameRest (m m' : Faltering ρ) : Prop := m.rest = m'.rest

lemma heedless_persist (id : ConversationId) (prompt content model : String) (tokens : UInt32)
    (latency : Numeric.Binary) : (persist id prompt content model tokens latency).Heedless AppendsAside := by
  refine .perform_heeded (fun ha => ha) fun u => .perform_heeded (fun ha => ha) fun t => ?_
  refine .perform_bind (fun _ _ _ => rfl) fun x => ?_
  refine .perform_heeded (fun ha => ha) fun u => .perform_heeded (fun ha => ha) fun t => ?_
  exact .perform_bind (fun _ _ _ => rfl) fun x => trivial

variable {others : Handler ρ} {f : Attempt α}

lemma handle_recording {c : Call} (hc : Recording c) {m m' : Faltering ρ} (hm : SameRest m m') :
    AppendsAside c (handle others c m).1 (handle others c m').1 ∧
      SameRest (handle others c m).2 (handle others c m').2 := by
  cases c with
  | appendMessage x => exact ⟨trivial, (handle_append others m x).1.trans (hm.trans (handle_append others m' x).1.symm)⟩
  | freshUuid => exact ⟨congrArg (fun r => (others .freshUuid r).1) hm, congrArg (fun r => (others .freshUuid r).2) hm⟩
  | wallClock => exact ⟨congrArg (fun r => (others .wallClock r).1) hm, congrArg (fun r => (others .wallClock r).2) hm⟩
  | _ => exact hc.elim

/-- Two runs, of which the first has faults and the second has none. -/
structure Matched (s : Conversations) (faulty sound : RunRecord (Faltering ρ) α) : Prop where
  calls : List.Forall₂ (Event.Alike AppendsAside SameRest) faulty.1 sound.1
  result : faulty.2.1 = sound.2.1
  rest : SameRest faulty.2.2 sound.2.2
  /-- From one store, each has appended what has not failed. -/
  stores : ∃ m, s.Gains [] m ∧ faulty.2.2.store = m.keep (faulty.1.filterMap recorded?) ∧
    sound.2.2.store = m.keep (sound.1.filterMap recorded?)

/-- A program that puts nothing on record but in the end is not impaired by faults. -/
theorem RecordsLast.matched (h : RecordsLast f) (s : Conversations) (faults : List (Option StoreError)) (rest : ρ) :
    Matched s (f.record (handle others) ⟨s, faults, rest⟩) (f.record (handle others) ⟨s, [], rest⟩) := by
  induction h generalizing s faults rest with
  | done x => exact ⟨.nil, rfl, rfl, s, s.gains_nil, rfl, rfl⟩
  | stuck => exact ⟨.nil, rfl, rfl, s, s.gains_nil, rfl, rfl⟩
  | @call c next quiet _ ih =>
    -- Both runs make this call in the same store; they differ in the faults to come only.
    obtain ⟨a, s', rest', hgains, hcall⟩ := handle_quiet others quiet s rest
    obtain ⟨calls, result, hrest, m, hm, hfaulty, hsound⟩ := ih a s' faults rest'
    have hrecord : ∀ faults, (Program.call c next).record (handle others) ⟨s, faults, rest⟩ =
        (⟨c, a, ⟨s', faults, rest'⟩⟩ :: ((next a).record (handle others) ⟨s', faults, rest'⟩).1,
          ((next a).record (handle others) ⟨s', faults, rest'⟩).2) := by
      intro faults
      simp only [record, hcall]
    have hquiet : ∀ m : Faltering ρ, recorded? ⟨c, a, m⟩ = none := fun m => recorded?_quiet quiet
    have hlike : AppendsAside c a a := by
      cases c <;> first | exact (quiet trivial).elim | rfl
    rw [hrecord, hrecord]
    refine ⟨.cons ⟨hlike, rfl⟩ calls, result, hrest, m, hgains.trans hm, ?_, ?_⟩
    · rw [List.filterMap_cons, hquiet]
      exact hfaulty
    · rw [List.filterMap_cons, hquiet]
      exact hsound
  | recording id prompt content model tokens latency a =>
    -- From here on the stores may differ, but nothing is read from them any more.
    have honly : ((persist id prompt content model tokens latency).bind fun _ => .done (.ok a) : Attempt α).Only
        Recording := (persist_only id prompt content model tokens latency).bind fun _ => trivial
    have hheedless : ((persist id prompt content model tokens latency).bind fun _ => .done (.ok a) : Attempt α).Heedless
        AppendsAside := (heedless_persist id prompt content model tokens latency).bind fun _ => trivial
    obtain ⟨calls, result, hrest⟩ := hheedless.record (handle others) (handle others) SameRest ⟨s, faults, rest⟩
      ⟨s, [], rest⟩ rfl fun c m m' hm he => handle_recording (record_only honly _ _ _ he) hm
    exact ⟨calls, result, hrest, s, s.gains_nil, kept honly _, kept honly _⟩

/-! ### What is attempted -/

variable {σ : Type} {κ : Conduct σ} {t : List (Event σ)} {m m' : σ}

/-- A whole answer that is not one of the cache was to go on record, behind its prompt. -/
lemma CompleteRun.attempts {r : InferenceResponse} (h : CompleteRun κ o p q m t (.ok r) m') (hr : r.cached = false) :
    ∃ u w u' w', t.filterMap appended? = [.ofUser u w r.conversation q.prompt,
      .ofAssistant u' w' r.conversation r.content r.model (r.tokenCount.getD 0) r.latency] := by
  generalize hx : Except.ok r = x at h
  cases h with
  | refused => cases hx
  | hit ready looked found timed =>
    cases hx
    cases hr
  | failed => cases hx
  | answered ready looked missed asked drawn timed kept persisted =>
    cases hx
    obtain ⟨u, w, u', w', happended⟩ := persisted_appended persisted
    refine ⟨u, w, u', w', ?_⟩
    rw [List.filterMap_append, filterMap_eq_nil (fun e => appended?_eq_none) ready.preparing]
    exact happended

/-- A streamed answer that has come to its end was to go on record, behind its prompt. -/
lemma StreamRun.attempts (hsink : ∀ f, (sink f).Only Consuming) {id : ConversationId}
    (h : StreamRun κ o sink p q m t (some (.ok id)) m') : ∃ u w u' w' x feed k, ⟨.openFeed x, feed, k⟩ ∈ t ∧
      t.filterMap appended? = [.ofUser u w id q.prompt,
        .ofAssistant u' w' id (String.join (feed.chunks.map (·.delta))) o.defaults.model 0 default] := by
  rcases h.fed with ⟨e, -, he⟩ | ⟨id', feed, offered, answer, fed⟩
  · cases he
  · obtain ⟨rfl, -⟩ := relayResult_eq_ok.mp fed.result.symm
    obtain ⟨u, w, u', w', happended⟩ := fed.appended hsink rfl
    obtain ⟨ms, t₁, k, k', t₂, k'', t₃, -, -, rfl, -⟩ := fed.course
    exact ⟨u, w, u', w', _, feed, k', List.mem_append_right _ List.mem_cons_self, happended⟩

/-! ### Runs under faults -/

/-- What a call was to put into the cache. -/
def cached? : Event σ → Option (String × List UInt8 × Nat)
  | ⟨.writeCache key value ttl, _, _⟩ => some (key, value, ttl)
  | _ => none

/-- A run that has faults in its store, and the run that has none. Only the store tells them apart. -/
structure Unimpaired (s : Conversations) (faulty sound : RunRecord (Faltering ρ) α) : Prop
    extends Matched s faulty sound where
  frames : faulty.1.filterMap offered? = sound.1.filterMap offered?
  /-- The backend is asked for the same. -/
  asked : faulty.1.filterMap asked? = sound.1.filterMap asked?
  cached : faulty.1.filterMap cached? = sound.1.filterMap cached?
  attempted : faulty.1.filterMap appended? = sound.1.filterMap appended?
  /-- The messages whose appends have not failed are on record, and no others. -/
  gains : s.Gains (faulty.1.filterMap recorded?) faulty.2.2.store

lemma reads_alike {e e' : Event (Faltering ρ)} (h : Event.Alike AppendsAside SameRest e e') :
    offered? e = offered? e' ∧ asked? e = asked? e' ∧ cached? e = cached? e' ∧ appended? e = appended? e' := by
  obtain @⟨c, a, a', m, m', ha, -⟩ := h
  cases c with
  | offer f =>
    obtain rfl : a = a' := ha
    cases a <;> exact ⟨rfl, rfl, rfl, rfl⟩
  | _ => exact ⟨rfl, rfl, rfl, rfl⟩

lemma RecordsLast.unimpaired (h : RecordsLast f) (s : Conversations) (faults : List (Option StoreError)) (rest : ρ) :
    Unimpaired s (f.record (handle others) ⟨s, faults, rest⟩) (f.record (handle others) ⟨s, [], rest⟩) where
  toMatched := h.matched s faults rest
  frames := filterMap_alike (fun h => (reads_alike h).1) (h.matched s faults rest).calls
  asked := filterMap_alike (fun h => (reads_alike h).2.1) (h.matched s faults rest).calls
  cached := filterMap_alike (fun h => (reads_alike h).2.2.1) (h.matched s faults rest).calls
  attempted := filterMap_alike (fun h => (reads_alike h).2.2.2) (h.matched s faults rest).calls
  gains := Faltering.gains f ⟨s, faults, rest⟩

/-- Faults in the store that a run does not heed, be it for a whole answer or for a streamed one. -/
structure FaultsUnheeded (o : Orchestrator) (sink : FrameSink) (p : Principal) (q : PipelineRequest) (others : Handler ρ)
    (s : Conversations) (faults : List (Option StoreError)) (rest : ρ) : Prop where
  whole : Unimpaired s ((o.complete p q).record (handle others) ⟨s, faults, rest⟩)
    ((o.complete p q).record (handle others) ⟨s, [], rest⟩)
  streamed : Unimpaired s ((o.stream sink p q).record (handle others) ⟨s, faults, rest⟩)
    ((o.stream sink p q).record (handle others) ⟨s, [], rest⟩)
  /-- Prompt and answer are both tried, whatever becomes of either. -/
  wholeAttempts : ∀ t r m, (o.complete p q).record (handle others) ⟨s, faults, rest⟩ = (t, some (.ok r), m) →
    r.cached = false → ∃ u w u' w', t.filterMap appended? = [.ofUser u w r.conversation q.prompt,
      .ofAssistant u' w' r.conversation r.content r.model (r.tokenCount.getD 0) r.latency]
  streamedAttempts : ∀ t id m, (o.stream sink p q).record (handle others) ⟨s, faults, rest⟩ = (t, some (.ok id), m) →
    ∃ u w u' w' x feed k, ⟨.openFeed x, feed, k⟩ ∈ t ∧ t.filterMap appended? = [.ofUser u w id q.prompt,
      .ofAssistant u' w' id (String.join (feed.chunks.map (·.delta))) o.defaults.model 0 default]

/-- Whichever appends fail, the caller, the consumer of a stream, the backend and the cache do not notice, and the store
has what it took. -/
theorem faults_unheeded (hsink : ∀ f, (sink f).Only Consuming) (others : Handler ρ) (s : Conversations)
    (faults : List (Option StoreError)) (rest : ρ) : FaultsUnheeded o sink p q others s faults rest where
  whole := recordsLast_complete.unimpaired s faults rest
  streamed := (recordsLast_stream hsink).unimpaired s faults rest
  wholeAttempts := by
    intro t r m hrecord hr
    obtain ⟨x, hx, hcourse⟩ := runs_complete (runs_of_record hrecord)
    cases hx
    exact hcourse.attempts hr
  streamedAttempts _ _ _ hrecord := (runs_stream (runs_of_record hrecord)).attempts hsink

/-! A store whose disk is full when the prompt is to go on record, and no longer when the answer is. -/

def diskFull : List (Option StoreError) := [some (.storage "disk full")]

/-- What is not the store, if the backend greets. -/
def greetingRest : Handler Memory := steady ⟨"", "Hi there", "m", none, none⟩ partingFeed

theorem faults_unheeded_diskFull :
    FaultsUnheeded greeter (fun f => perform (.offer f)) ⟨"alice"⟩ greetingQuery greetingRest (.memory .empty) diskFull
      .empty ∧
    (((greeter.stream (fun f => perform (.offer f)) ⟨"alice"⟩ greetingQuery).record (handle greetingRest)
      ⟨.memory .empty, diskFull, .empty⟩).1.filterMap recorded?).map Message.turn = [⟨.assistant, "Hi there"⟩] :=
  ⟨faults_unheeded (fun _ => .perform trivial) _ _ _ _, rfl⟩

end Orchestrator
end CompletionGateway
