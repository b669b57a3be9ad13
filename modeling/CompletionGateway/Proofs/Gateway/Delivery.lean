import CompletionGateway.Gateway.Handler
import CompletionGateway.Proofs.Pipeline.Courses

/-! Writing to a client that stays. What is emitted in a run is what the client is told, in order; every frame of a
feed is among it. -/
namespace CompletionGateway

/-- What a feed comes to if all its chunks are taken: their text, the failure it ends with, or nothing. -/
def Feed.result (feed : Feed) : Option (Except ProviderError String) :=
  match feed.ending with
  | .finished => some (.ok (String.join (feed.chunks.map (·.delta))))
  | .failed e => some (.error e)
  | .silent => none

lemma Feed.result_finished {feed : Feed} (h : feed.ending = .finished) :
    feed.result = some (.ok (String.join (feed.chunks.map (·.delta)))) := by
  rw [result, h]

namespace Gateway
open Program EventStream Orchestrator
variable {σ : Type}

/-- What is written reaches a client that stays, and nothing else does. -/
structure Delivers (κ : Conduct σ) (out : σ → Emitter) : Prop where
  written : ∀ {e s a s'}, κ (.emit e) s a s' → (a, out s') = (out s).write e
  silent : ∀ {c s a s'}, κ c s a s' → (∀ e, c ≠ .emit e) → out s' = out s

/-- The event that a call wrote to the client. -/
def emitted? : Program.Event σ → Option EventStream.Event
  | ⟨.emit e, .ok _, _⟩ => some e
  | _ => none

variable {κ : Conduct σ} {out : σ → Emitter} {s s' : σ}

/-! ### Writing to a client that stays -/

namespace Delivers

lemma events (h : Delivers κ out) {c s a s'} (hc : κ c s a s') :
    (out s').events = (out s).events ++ (emitted? ⟨c, a, s'⟩).toList := by
  cases c with
  | emit e =>
    have hwritten := h.written hc
    unfold Emitter.write at hwritten
    split at hwritten
    · obtain ⟨rfl, hout⟩ := Prod.ext_iff.mp hwritten
      rw [show out s' = _ from hout]
      simp [Emitter.events, emitted?]
    · obtain ⟨rfl, hout⟩ := Prod.ext_iff.mp hwritten
      rw [show out s' = out s from hout]
      simp [emitted?]
  | _ =>
    rw [h.silent hc (fun e heq => nomatch heq)]
    simp [emitted?]

lemma connected (h : Delivers κ out) {c s a s'} (hc : κ c s a s') : (out s').connected = (out s).connected := by
  by_cases hemit : ∃ e, c = .emit e
  · obtain ⟨e, rfl⟩ := hemit
    have hwritten := h.written hc
    unfold Emitter.write at hwritten
    split at hwritten
    · rename_i hconnected
      rw [show out s' = _ from congrArg Prod.snd hwritten, hconnected]
    · rw [show out s' = out s from congrArg Prod.snd hwritten]
  · rw [h.silent hc fun e he => hemit ⟨e, he⟩]

lemma runs_connected (h : Delivers κ out) {α : Type} {f : Program α} {t r} (hrun : Runs κ f s t r s') :
    (out s').connected = (out s).connected :=
  hrun.related (fun s s' => (out s').connected = (out s).connected) (fun _ => rfl) (fun h h' => h'.trans h)
    fun _ _ _ hκ => h.connected hκ

lemma emit_ok (h : Delivers κ out) {e s a s'} (hs : (out s).connected = true) (hc : κ (.emit e) s a s') :
    a = .ok () := by
  have hwritten := h.written hc
  rw [Emitter.write, if_pos hs] at hwritten
  exact congrArg Prod.fst hwritten

lemma runs_emit (h : Delivers κ out) {e t r} (hs : (out s).connected = true) (hrun : Runs κ (emit e) s t r s') :
    r = some () ∧ t = [⟨.emit e, .ok (), s'⟩] := by
  obtain ⟨a, m, t', hc, hdone, rfl⟩ := runs_perform_bind.mp hrun
  obtain ⟨rfl, rfl, rfl⟩ := runs_done.mp hdone
  obtain rfl := h.emit_ok hs hc
  exact ⟨rfl, rfl⟩

/-- All chunks are handed on, and the text is that of all of them. -/
lemma runs_relay (h : Delivers κ out) {id : ConversationId} {cs : List Chunk} {text : String} {t r}
    (hs : (out s).connected = true)
    (hrun : Runs κ (relay (fun f => perform (.emit (.ofFrame f))) id cs text) s t r s') :
    r = some (.ok ((cs.map (·.delta)).foldl (· ++ ·) text)) ∧
      t.filterMap emitted? = cs.map fun c => .ofFrame (c.frame id) := by
  induction cs generalizing text s t with
  | nil =>
    obtain ⟨rfl, rfl, -⟩ := runs_done.mp hrun
    exact ⟨rfl, rfl⟩
  | cons c cs ih =>
    obtain ⟨a, m, t', hc, hrest, rfl⟩ := runs_perform_bind.mp hrun
    obtain rfl := h.emit_ok hs hc
    have hm : (out m).connected = true := by rw [h.connected hc, hs]
    obtain ⟨rfl, htail⟩ := ih hm hrest
    refine ⟨rfl, ?_⟩
    rw [List.filterMap_cons, List.map_cons, htail]
    rfl

/-- What becomes of a feed is settled by its end once all its chunks are taken. -/
lemma runs_relayFeed (h : Delivers κ out) {id : ConversationId} {feed : Feed} {t r} (hs : (out s).connected = true)
    (hrun : Runs κ (relayFeed (fun f => perform (.emit (.ofFrame f))) id feed) s t r s') :
    r = feed.result ∧ t.filterMap emitted? = feed.chunks.map fun c => .ofFrame (c.frame id) := by
  rcases runs_bind.mp hrun with ⟨x, m, t₁, t₂, hrelay, hrest, rfl⟩ | ⟨hrelay, -⟩
  · obtain ⟨hx, hevents⟩ := h.runs_relay hs hrelay
    obtain rfl := Option.some.inj hx
    have hend : r = feed.result ∧ t₂ = [] := by
      obtain ⟨chunks, ending⟩ := feed
      cases ending with
      | finished =>
        obtain ⟨rfl, rfl, -⟩ := runs_done.mp hrest
        exact ⟨rfl, rfl⟩
      | failed e =>
        obtain ⟨rfl, rfl, -⟩ := runs_done.mp hrest
        exact ⟨rfl, rfl⟩
      | silent =>
        obtain ⟨rfl, rfl, -⟩ := runs_stuck.mp hrest
        exact ⟨rfl, rfl⟩
    obtain ⟨rfl, rfl⟩ := hend
    rw [List.append_nil]
    exact ⟨rfl, hevents⟩
  · cases (h.runs_relay hs hrelay).1

end Delivers

lemma emitted?_eq_none {e : Program.Event σ} (h : Preparing e.call) : emitted? e = none := by
  obtain ⟨c, a, m⟩ := e
  cases c <;> first | rfl | exact h.elim

lemma preparing_emitted {t : List (Program.Event σ)} (h : ∀ e ∈ t, Preparing e.call) : t.filterMap emitted? = [] :=
  List.filterMap_eq_nil_iff.mpr fun e he => emitted?_eq_none (h e he)

lemma persisted_emitted {id : ConversationId} {prompt content model tokens latency t}
    (h : PersistRun κ id prompt content model tokens latency s t s') : t.filterMap emitted? = [] := by
  obtain ⟨drawn, clock, asked, drawn', clock', answered⟩ := h
  rfl

lemma Delivers.ready_connected (h : Delivers κ out) {o : Orchestrator} {p : Principal} {q : PipelineRequest} {t id ms}
    (ready : ReadyRun κ o p q s t id ms s') : (out s').connected = (out s).connected := by
  obtain ⟨valid, resolved, read⟩ := ready
  rw [h.connected read, h.runs_connected resolved]

/-- A client that listens from the beginning is told what is emitted. -/
lemma Delivers.told (h : Delivers κ out) (hs : out s = .opened) {α : Type} {f : Program α} {t r}
    (hrun : Runs κ f s t r s') : (out s').events = t.filterMap emitted? := by
  have hevents := hrun.grows (fun s => (out s).events) emitted? h.events
  rw [hevents, hs]
  rfl

end Gateway
end CompletionGateway
