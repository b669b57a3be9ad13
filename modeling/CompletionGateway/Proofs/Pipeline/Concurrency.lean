import CompletionGateway.Proofs.Pipeline.Transcript
import CompletionGateway.Proofs.Program.Interleavings

/-! Requests that run at the same time. Between any two calls of one request the others may find, begin and extend
conversations, the same one among them. Still no exchange is lost, torn apart from its conversation, or put on record
twice: nobody takes a conversation from its owner, and so what a run has resolved stays true until it ends. -/
namespace CompletionGateway
open Program Store Store.Memory

namespace Store.Memory

/-- What the calls of anybody do to a store: it stays well formed, and conversations stay with their owners. -/
def Onward (s s' : Memory) : Prop :=
  s.WellFormed → s'.WellFormed ∧ ∀ {id p}, s.owner? id = some p → s'.owner? id = some p

lemma Onward.refl (s : Memory) : Onward s s := fun hs => ⟨hs, fun h => h⟩

lemma Onward.trans {s m s' : Memory} (h : Onward s m) (h' : Onward m s') : Onward s s' := by
  intro hs
  obtain ⟨hm, hkept⟩ := h hs
  obtain ⟨hs', hkept'⟩ := h' hm
  exact ⟨hs', fun hp => hkept' (hkept hp)⟩

lemma works.onward {c : Call} {s a s'} (h : works c s a s') : Onward s s' := by
  intro hs
  refine ⟨h.mayFail.wellFormed hs, ?_⟩
  by_cases hc : writes c
  · cases c with
    | createConversation c =>
      obtain rfl : s' = (s.create c).2 := congrArg Prod.snd h
      have hcreated : Extends c.owner (fun _ => True) s _ := .create hs rfl trivial
      exact hcreated.kept
    | appendMessage m =>
      obtain rfl : s' = (s.append m).2 := congrArg Prod.snd h
      cases hm : s.find? m.conversation with
      | none =>
        rw [append_absent hm]
        exact fun hp => hp
      | some c =>
        have happended : Extends c.owner (fun _ => True) s _ := .append hs (owner?_eq_some.mpr ⟨c, hm, rfl⟩)
        exact happended.kept
    | _ => exact hc.elim
  · rw [h.mayFail.unchanged hc]
    exact fun hp => hp

lemma works_total (c : Call) (s : Memory) : ∃ a s', works c s a s' :=
  ⟨_, _, steady_works ⟨"", "", "", none, none⟩ ⟨[], .silent⟩ c s⟩

/-- A store that works, as one of many who use it finds it. -/
abbrev shared : Conduct Memory := amid Onward works

lemma shared_total (c : Call) (s : Memory) : ∃ a s', shared c s a s' := by
  obtain ⟨a, s', h⟩ := works_total c s
  exact ⟨a, s', amid.of Onward.refl h⟩

lemma shared_onward {c : Call} {s a s'} (h : shared c s a s') : Onward s s' := by
  obtain ⟨m, hm, h⟩ := h
  exact hm.trans h.onward

lemma runs_onward {α : Type} {p : Program α} {s t r s'} (h : Runs shared p s t r s') : Onward s s' :=
  h.related Onward Onward.refl Onward.trans fun _ _ _ => shared_onward

/-- Appending to a conversation of one's own succeeds. -/
lemma shared_append {p : Principal} {m : Message} {s s' : Memory} {x} (hs : s.WellFormed)
    (hp : s.owner? m.conversation = some p) (h : shared (.appendMessage m) s x s') :
    x = .ok () ∧ s'.WellFormed ∧ s'.owner? m.conversation = some p := by
  have hafter := shared_onward h hs
  obtain ⟨k, hk, h⟩ := h
  obtain ⟨c, hc, -⟩ := owner?_eq_some.mp ((hk hs).2 hp)
  rw [works, append_present hc] at h
  exact ⟨congrArg Prod.fst h, hafter.1, hafter.2 hp⟩

end Store.Memory

/-- The messages are prompt and answer of the dialogue, in its conversation. -/
def Dialogue.Recorded (x : Dialogue) (ms : List Message) : Prop :=
  ms.map Message.turn = x.turns ∧ ∀ m ∈ ms, m.conversation = x.conversation

/-- What a run has put on record: an exchange or nothing, and in a conversation of its caller's. -/
structure Wrote (p : Principal) (t : List (Event Memory)) (said : Option Dialogue) : Prop where
  answered : ∀ x, said = some x → x.Recorded (t.filterMap recorded?)
  silent : said = none → t.filterMap recorded? = []
  owned : ∀ e ∈ t, ∀ m, recorded? e = some m → e.after.owner? m.conversation = some p

lemma Wrote.nothing {p : Principal} {t : List (Event Memory)} (h : t.filterMap recorded? = []) : Wrote p t none := by
  refine ⟨fun x hx => (nomatch hx), fun _ => h, ?_⟩
  intro e he m hm
  rw [List.filterMap_eq_nil_iff.mp h e he] at hm
  cases hm

/-- Calls that put nothing on record may come before. -/
lemma Wrote.after {p : Principal} {t t' : List (Event Memory)} {said} (h : Wrote p t' said)
    (ht : t.filterMap recorded? = []) : Wrote p (t ++ t') said := by
  have hrecorded : (t ++ t').filterMap recorded? = t'.filterMap recorded? := by
    rw [List.filterMap_append, ht, List.nil_append]
  refine ⟨fun x hx => hrecorded ▸ h.answered x hx, fun hx => hrecorded ▸ h.silent hx, ?_⟩
  intro e he m hm
  rcases List.mem_append.mp he with he | he
  · rw [List.filterMap_eq_nil_iff.mp ht e he] at hm
    cases hm
  · exact h.owned e he m hm

namespace Orchestrator
variable {p : Principal} {s s' : Memory}

/-! ### One run among others -/

lemma StartRun.owned {t x} (h : StartRun shared p s t x s') : ∀ id, x = .ok id → s'.owner? id = some p := by
  obtain ⟨drawn, clock, entered⟩ := h
  rename_i id m now m' x
  obtain ⟨k, -, entered⟩ := entered
  intro id' hid'
  cases hfound : k.find? id with
  | some c =>
    rw [works, create_present (c := .start id now p) hfound] at entered
    obtain ⟨rfl, -⟩ := Prod.ext_iff.mp entered
    cases hid'
  | none =>
    rw [works, create_absent (c := .start id now p) hfound] at entered
    obtain ⟨rfl, rfl⟩ := Prod.ext_iff.mp entered
    cases hid'
    simp [owner?, find?, Conversation.start]

lemma ResolveRun.owned {named : Option ConversationId} {t x} (hs : s.WellFormed)
    (h : ResolveRun shared p s named t x s') : ∀ id, x = .ok id → s'.owner? id = some p := by
  cases h with
  | started start => exact start.owned
  | unread read => exact fun id hid => nomatch hid
  | @found id c _ read owned =>
    obtain ⟨k, hk, hfound, rfl⟩ := read
    have hfound : s'.find? id = some c := (Except.ok.inj hfound).symm
    intro id' hid'
    obtain rfl : c.id = id' := Except.ok.inj hid'
    rw [(hk hs).1.named hfound]
    exact owner?_eq_some.mpr ⟨c, hfound, isOwnedBy_iff.mp owned⟩
  | forbidden read foreign => exact fun id hid => nomatch hid
  | absent read start => exact start.owned

/-- A run that got as far as its conversation has one of its caller's, whatever others did meanwhile. -/
lemma ReadyRun.owned {o : Orchestrator} {q : PipelineRequest} {t id ms} (hs : s.WellFormed)
    (h : ReadyRun shared o p q s t id ms s') : s'.WellFormed ∧ s'.owner? id = some p := by
  obtain ⟨-, resolved, read⟩ := h
  have hm := (runs_onward resolved hs).1
  obtain ⟨x, hx, resolved⟩ := runs_resolve resolved
  obtain ⟨hs', hkept⟩ := shared_onward read hm
  exact ⟨hs', hkept (resolved.owned hs id (Option.some.inj hx).symm)⟩

lemma PersistRun.wrote {id : ConversationId} {prompt content model tokens latency t} (hs : s.WellFormed)
    (hp : s.owner? id = some p) (h : PersistRun shared id prompt content model tokens latency s t s') :
    Wrote p t (some ⟨id, prompt, content⟩) := by
  obtain ⟨drawn, clock, asked, drawn', clock', answered⟩ := h
  rename_i u m₁ w m₂ x m₃ u' m₄ w' m₅ x'
  obtain ⟨hm₂, hkept⟩ := (shared_onward drawn).trans (shared_onward clock) hs
  obtain ⟨rfl, hm₃, hp₃⟩ := shared_append (m := .ofUser u w id prompt) hm₂ (hkept hp) asked
  replace hp₃ : m₃.owner? id = some p := hp₃
  obtain ⟨hm₅, hkept'⟩ := (shared_onward drawn').trans (shared_onward clock') hm₃
  obtain ⟨rfl, -, hp'⟩ :=
    shared_append (m := .ofAssistant u' w' id content model tokens latency) hm₅ (hkept' hp₃) answered
  refine ⟨?_, fun hx => (nomatch hx), ?_⟩
  · rintro y ⟨⟩
    refine ⟨rfl, ?_⟩
    intro m hm
    simp only [List.filterMap_cons, recorded?, List.filterMap_nil, List.mem_cons, List.not_mem_nil, or_false] at hm
    rcases hm with rfl | rfl <;> rfl
  · intro e he m hm
    simp only [List.mem_cons, List.not_mem_nil, or_false] at he
    rcases he with rfl | rfl | rfl | rfl | rfl | rfl
    · cases hm
    · cases hm
    · cases hm
      exact hp₃
    · cases hm
    · cases hm
    · cases hm
      exact hp'

lemma CompleteRun.wrote {o : Orchestrator} {q : PipelineRequest} {t x} (hs : s.WellFormed)
    (h : CompleteRun shared o p q s t x s') : Wrote p t (Entry.dialogue? ⟨.complete p q, s, t, some x, s'⟩) := by
  cases h with
  | refused h => exact .nothing (filterMap_eq_nil (fun e => recorded?_eq_none) h.preparing)
  | hit ready looked found timed =>
    exact Wrote.after (.nothing rfl) (filterMap_eq_nil (fun e => recorded?_eq_none) ready.preparing)
  | failed ready looked missed asked =>
    exact Wrote.after (.nothing rfl) (filterMap_eq_nil (fun e => recorded?_eq_none) ready.preparing)
  | answered ready looked missed asked drawn timed kept persisted =>
    obtain ⟨hm, hp⟩ := ready.owned hs
    have hbetween := (shared_onward looked).trans <| (shared_onward asked).trans <| (shared_onward drawn).trans <|
      (shared_onward timed).trans (shared_onward kept)
    obtain ⟨hm', hkept⟩ := hbetween hm
    have hwrote := persisted.wrote hm' (hkept hp)
    refine Wrote.after (Wrote.after (t := [_, _, _, _, _]) hwrote rfl) ?_
    exact filterMap_eq_nil (fun e => recorded?_eq_none) ready.preparing

lemma StreamRun.wrote {o : Orchestrator} {q : PipelineRequest} {t r} (hs : s.WellFormed)
    (h : StreamRun shared o (fun f => perform (.offer f)) p q s t r s') :
    Wrote p t (Entry.dialogue? ⟨.stream p q, s, t, r, s'⟩) := by
  cases h with
  | refused h => exact .nothing (filterMap_eq_nil (fun e => recorded?_eq_none) h.preparing)
  | silent ready opened relayed =>
    refine Wrote.after (.nothing ?_) (filterMap_eq_nil (fun e => recorded?_eq_none) ready.preparing)
    exact (List.filterMap_cons_none rfl).trans (relayed_recorded relayed)
  | failed ready opened relayed =>
    refine Wrote.after (.nothing ?_) (filterMap_eq_nil (fun e => recorded?_eq_none) ready.preparing)
    exact (List.filterMap_cons_none rfl).trans (relayed_recorded relayed)
  | @finished t id ms m feed m₁ t' text m₂ t'' s' ready opened relayed persisted =>
    obtain ⟨hm, hp⟩ := ready.owned hs
    obtain ⟨hm₂, hkept⟩ := ((shared_onward opened).trans (runs_onward relayed)) hm
    have hwrote := persisted.wrote hm₂ (hkept hp)
    have htext : offeredText (t ++ ⟨.openFeed (o.requestFor q ms), feed, m₁⟩ :: (t' ++ t'')) = text := by
      rw [relayFeed_offered relayed]
      simp only [offeredText, List.filterMap_append, filterMap_eq_nil (fun e => offered?_eq_none) ready.preparing,
        List.filterMap_cons, offered?, persisted.offered, List.nil_append, List.append_nil]
    rw [Entry.dialogue?, htext]
    refine Wrote.after ?_ (filterMap_eq_nil (fun e => recorded?_eq_none) ready.preparing)
    exact Wrote.after (t := [_]) (hwrote.after (relayed_recorded relayed)) rfl

end Orchestrator

/-- What a run among others puts on record is what was said in it, in a conversation of its caller's. -/
lemma Entry.Ran.wrote {o : Orchestrator} {e : Entry Memory} (hs : e.before.WellFormed) (h : e.Ran shared o) :
    Wrote e.op.principal e.trace e.dialogue? := by
  obtain ⟨op, s, t, r, s'⟩ := e
  cases op with
  | complete p q =>
    obtain ⟨x, rfl, hrun⟩ := Orchestrator.runs_complete h
    exact hrun.wrote hs
  | stream p q => exact (Orchestrator.runs_stream h).wrote hs
  | listMessages p id =>
    exact .nothing (filterMap_eq_nil unwritten_unrecorded (h.only (Orchestrator.listMessages_only p id)))
  | listConversations p =>
    exact .nothing (filterMap_eq_nil unwritten_unrecorded (h.only (Orchestrator.listConversations_only p)))

/-! ### All runs together -/

/-- A request that runs among others. -/
abbrev Running := Strand (fun op : Operation => Except PipelineError op.Answer) Memory

/-- The messages that the run has put on record so far. -/
def Running.recorded (x : Running) : List Message := x.trace.filterMap recorded?

/-- The run, begun in an empty store, if it ended with a result. -/
def Running.entry (x : Running) (r : Option (Except PipelineError x.task.Answer)) (s : Memory) : Entry Memory :=
  ⟨x.task, .empty, x.trace, r, s⟩

/-- What was said in a run does not depend on what others did afterwards. -/
lemma Running.dialogue?_entry (x : Running) (r) (s s' : Memory) :
    (x.entry r s).dialogue? = (x.entry r s').dialogue? := by
  obtain ⟨op, t, rest⟩ := x
  cases op with
  | complete p q => rcases r with _ | _ | _ <;> rfl
  | stream p q => rcases r with _ | _ | _ <;> rfl
  | listMessages p id => rfl
  | listConversations p => rfl

/-- What requests that run at the same time have left in a store that was empty. -/
structure Settled (ops : List Operation) (xs : List Running) (s : Memory) : Prop where
  tasks : xs.map (·.task) = ops
  /-- Every message on record was put there by one of the runs, once, and those of a run in its order. -/
  interleaved : ∃ log : List (Nat × Message), s.messages = log.map (·.2) ∧ (∀ e ∈ log, e.1 < xs.length) ∧
    ∀ i x, xs[i]? = some x → x.recorded = (log.filter (·.1 = i)).map (·.2)
  /-- A run that ended well without the cache has prompt and answer on record, in this order, in the conversation that
  it found or began. -/
  answered : ∀ x ∈ xs, ∀ r, x.rest.ended? = some r → ∀ d, (x.entry r s).dialogue? = some d →
    (x.entry r s).ResolvedTo shared d.conversation ∧ d.Recorded x.recorded
  /-- A run that ended otherwise has nothing on record. -/
  silent : ∀ x ∈ xs, ∀ r, x.rest.ended? = some r → (x.entry r s).dialogue? = none → x.recorded = []
  /-- Every message is in a conversation of the caller whose run put it there. -/
  owned : ∀ x ∈ xs, ∀ m ∈ x.recorded, s.owner? m.conversation = some x.task.principal

/-- However requests take turns, no exchange is lost, doubled or misplaced. -/
theorem Program.Interleaved.settled {o : Orchestrator} {ops : List Operation} {xs : List Running} {s : Memory}
    (h : Interleaved works (Operation.program o) ops .empty xs s) : Settled ops xs s := by
  have hreaches := h.reaches Onward Onward.refl Onward.trans works.onward
  -- each run as it ended or may yet end
  have hwrote : ∀ x ∈ xs, ∃ t said, Wrote x.task.principal (x.trace ++ t) said := by
    intro x hx
    obtain ⟨m, hm, -⟩ := hreaches x hx
    obtain ⟨t, r, s', hrun⟩ := hm.extend shared_total
    exact ⟨t, _, Entry.Ran.wrote (e := ⟨x.task, .empty, x.trace ++ t, r, s'⟩) wellFormed_empty hrun⟩
  have hended : ∀ x ∈ xs, ∀ r, x.rest.ended? = some r → ∃ m, (x.entry r m).Ran shared o := by
    intro x hx r hr
    obtain ⟨m, hm, -⟩ := hreaches x hx
    exact ⟨m, hm.ended hr⟩
  constructor
  case tasks => exact h.tasks_eq
  case interleaved =>
    obtain ⟨log, hlog, hlt, htraces⟩ := h.logged (·.messages) recorded? fun hκ => hκ.mayFail.messages
    exact ⟨log, hlog, hlt, htraces⟩
  case answered =>
    intro x hx r hr d hd
    obtain ⟨m, ran⟩ := hended x hx r hr
    rw [x.dialogue?_entry r s m] at hd
    exact ⟨ran.resolved hd, (ran.wrote wellFormed_empty).answered d hd⟩
  case silent =>
    intro x hx r hr hd
    obtain ⟨m, ran⟩ := hended x hx r hr
    rw [x.dialogue?_entry r s m] at hd
    exact (ran.wrote wellFormed_empty).silent hd
  case owned =>
    intro x hx m hm
    obtain ⟨e, he, hem⟩ := List.mem_filterMap.mp hm
    obtain ⟨t, said, hwrote⟩ := hwrote x hx
    obtain ⟨k, hk, hlast⟩ := hreaches x hx
    -- the owner after the call is the owner still
    obtain ⟨-, hevents⟩ := hk.related Onward Onward.refl Onward.trans fun _ _ _ => shared_onward
    obtain ⟨hbefore, hafter⟩ := hevents e he
    obtain ⟨-, hkept⟩ := hafter.trans hlast (hbefore wellFormed_empty).1
    exact hkept (hwrote.owned e (List.mem_append_left t he) m hem)

/-! Alice begins a conversation and then asks twice in it at the same time, and Bob asks for it as well. -/

def crowd : List Operation :=
  [.complete ⟨"alice"⟩ ⟨"Hello", none, false, none, none, none⟩,
    .stream ⟨"alice"⟩ ⟨"One", some ⟨⟨0⟩⟩, true, none, none, none⟩,
    .complete ⟨"alice"⟩ ⟨"Two", some ⟨⟨0⟩⟩, false, none, none, none⟩,
    .stream ⟨"bob"⟩ ⟨"Mine?", some ⟨⟨0⟩⟩, true, none, none, none⟩]

/-- Each prompt of Alice's is on record before the answer to the other. -/
def crowded : List Running × Memory :=
  takeTurns (steady ⟨"1", "Hi", "m", none, none⟩ ⟨[⟨"2", "Well", none, none⟩], .finished⟩)
    (List.replicate 15 0 ++ List.replicate 10 2 ++ 3 :: List.replicate 7 1 ++ List.replicate 3 2 ++ List.replicate 3 1)
    (crowd.map (.start (Operation.program ⟨.none, 20, 100, ⟨"m", default, 0⟩, 0⟩) Memory), .empty)

theorem Program.Interleaved.settled_crowded :
    Interleaved works (Operation.program ⟨.none, 20, 100, ⟨"m", default, 0⟩, 0⟩) crowd .empty crowded.1 crowded.2 ∧
    Settled crowd crowded.1 crowded.2 ∧
    crowded.1.map (fun x => x.rest.ended?.isSome) = [true, true, true, true] ∧
    crowded.2.messages.map (·.content) = ["Hello", "Hi", "Two", "One", "Hi", "Well"] ∧
    crowded.1.map (fun x => x.recorded.map (·.content)) = [["Hello", "Hi"], ["One", "Well"], ["Two", "Hi"], []] := by
  have h : Interleaved works (Operation.program ⟨.none, 20, 100, ⟨"m", default, 0⟩, 0⟩) crowd .empty
      crowded.1 crowded.2 := .takeTurns (steady_works _ _) .start _
  exact ⟨h, h.settled, rfl, rfl, rfl⟩

end CompletionGateway
