import CompletionGateway.Proofs.Completion.Feeds
import CompletionGateway.Proofs.EventStream.Bodies
import CompletionGateway.Proofs.Gateway.Delivery
import CompletionGateway.Proofs.Store.Memory

/-! A streamed answer is passed on faithfully. Whatever bytes a backend answers with, in whatever pieces, a client that
stays is told one frame for each stream response with a choice in front of the end mark, and the end mark; the answer
that goes on record is what these frames say. -/
namespace CompletionGateway
open Program EventStream Store Store.Memory

namespace Orchestrator
variable {σ : Type} {κ : Conduct σ} {o : Orchestrator} {p : Principal} {q : PipelineRequest} {s s' : σ}

/-! ### Finding the conversation -/

/-- The store answers when a conversation is looked up, begun or read, and the one that it finds is the caller's. -/
def granted (p : Principal) : Program.Event σ → Bool
  | ⟨.findConversation _, .ok (some c), _⟩ => c.isOwnedBy p
  | ⟨.findConversation _, a, _⟩ => a.isOk
  | ⟨.createConversation _, a, _⟩ => a.isOk
  | ⟨.listMessages _, a, _⟩ => a.isOk
  | _ => true

lemma StartRun.succeeds {t x} (h : StartRun κ p s t x s') (hg : ∀ e ∈ t, granted p e = true) : ∃ id, x = .ok id := by
  obtain ⟨drawn, clock, entered⟩ := h
  rename_i id m now m' x
  have hx : x.isOk = true := hg ⟨.createConversation (.start id now p), x, s'⟩ (by simp)
  cases x with
  | ok u => exact ⟨id, rfl⟩
  | error e => cases hx

lemma ResolveRun.succeeds {named t x} (h : ResolveRun κ p s named t x s') (hg : ∀ e ∈ t, granted p e = true) :
    ∃ id, x = .ok id := by
  cases h with
  | started start => exact start.succeeds hg
  | unread read => exact absurd (hg _ List.mem_cons_self) Bool.false_ne_true
  | found read owned => exact ⟨_, rfl⟩
  | forbidden read foreign =>
    have howned := hg _ List.mem_cons_self
    simp only [granted, foreign, Bool.false_eq_true] at howned
  | absent read start => exact start.succeeds fun e he => hg e (List.mem_cons_of_mem _ he)

/-- A caller who may use the conversation is not refused. -/
lemma RefusedRun.not_granted {t e} (valid : o.validate q = .ok ()) (h : RefusedRun κ o p q s t e s')
    (hg : ∀ e ∈ t, granted p e = true) : False := by
  cases h with
  | invalid bad => simp [valid] at bad
  | unresolved valid resolved =>
    obtain ⟨x, hx, resolved⟩ := runs_resolve resolved
    obtain ⟨id, rfl⟩ := resolved.succeeds hg
    cases hx
  | unread valid resolved read =>
    rename_i id t m e
    have hread : (Except.error e : Except StoreError (List Message)).isOk = true :=
      hg ⟨.listMessages id, .error e, s'⟩ (by simp)
    cases hread

end Orchestrator

namespace Gateway
open Orchestrator
variable {σ : Type}

/-- The message that a call was to put on record. -/
def appended? : Program.Event σ → Option Message
  | ⟨.appendMessage m, _, _⟩ => some m
  | _ => none

/-- The call did not fail to put a message on record. -/
def accepted : Program.Event σ → Bool
  | ⟨.appendMessage _, a, _⟩ => a.isOk
  | _ => true

/-- The record of a store that keeps the messages it accepts and no others. -/
def Keeps (κ : Conduct σ) (record : σ → List Message) : Prop :=
  ∀ {c s a s'}, κ c s a s' → record s' = record s ++ (recorded? ⟨c, a, s'⟩).toList

/-- What the body of a streamed answer tells a client, and what goes on record. -/
structure Faithful (κ : Conduct σ) (out : σ → Emitter) (o : Orchestrator) (p : Principal) (q : PipelineRequest)
    (body : List UInt8) (s : σ) (t : List (Program.Event σ)) (s' : σ) (id : ConversationId) : Prop where
  /-- The conversation is the one that was found or begun. -/
  resolved : ∃ u m, u <+: t ∧ Runs κ (resolve p q.conversation) s u (some (.ok id)) m
  /-- In whatever pieces the client reads the body, it reads the frames and one end mark. -/
  told : ∀ limit pieces, pieces.flatten = Text.utf8 (out s').body → pieces.flatten.length ≤ limit →
    ∃ payloads : List String, (Decoder.fresh limit).readAll pieces = .ok (payloads.map .data ++ [.done]) ∧
      payloads.map (Json.decodeText StreamFrame.ofTree?) = (framesOf body id).map some
  /-- Prompt and answer were to go on record, the answer being what the frames say. -/
  appended : ∃ u w u' w', t.filterMap appended? = [.ofUser u w id q.prompt,
    .ofAssistant u' w' id (String.join ((framesOf body id).map (·.delta))) o.defaults.model 0 default]
  /-- They are on record if the store has accepted them. -/
  persisted : ∀ record : σ → List Message, Keeps κ record → (∀ e ∈ t, accepted e = true) →
    record s' = record s ++ t.filterMap appended?

variable {κ : Conduct σ} {out : σ → Emitter} {o : Orchestrator} {p : Principal} {q : PipelineRequest} {s s' : σ}

/-! ### The whole run -/

lemma appended?_eq_none {e : Program.Event σ} (h : Preparing e.call) : appended? e = none := by
  obtain ⟨c, a, m⟩ := e
  cases c <;> first | rfl | exact h.elim

lemma relayed_appended {id : ConversationId} {feed : Feed} {t r}
    (hrun : Runs κ (relayFeed (fun f => perform (.emit (.ofFrame f))) id feed) s t r s') :
    t.filterMap appended? = [] := by
  have honly := hrun.only (K := fun c => ∃ e, c = .emit e)
    (relayFeed_only (fun f => .perform ⟨.ofFrame f, rfl⟩) id feed)
  refine List.filterMap_eq_nil_iff.mpr ?_
  rintro ⟨c, a, m⟩ he
  obtain ⟨e, rfl⟩ := honly _ he
  rfl

lemma persisted_appended {id : ConversationId} {prompt content model tokens latency t}
    (h : PersistRun κ id prompt content model tokens latency s t s') : ∃ u w u' w', t.filterMap appended? =
      [.ofUser u w id prompt, .ofAssistant u' w' id content model tokens latency] := by
  obtain ⟨drawn, clock, asked, drawn', clock', answered⟩ := h
  exact ⟨_, _, _, _, rfl⟩

/-- What a run writes and puts on record if every feed ends well. -/
lemma Delivers.runs_writeStream (h : Delivers κ out) {frames : ConversationId → List StreamFrame}
    (hfeed : ∀ {r s a s'}, κ (.openFeed r) s a s' → a.ending = .finished ∧ ∀ id, a.chunks.map (·.frame id) = frames id)
    (hvalid : o.validate q = .ok ()) (hs : (out s).connected = true) {t r} (hrun : Runs κ (writeStream o p q) s t r s')
    (hg : ∀ e ∈ t, granted p e = true) :
    r = some () ∧ ∃ id, (∃ u m, u <+: t ∧ Runs κ (resolve p q.conversation) s u (some (.ok id)) m) ∧
      t.filterMap emitted? = (frames id).map .ofFrame ++ [.ending] ∧
      ∃ u w u' w', t.filterMap appended? = [.ofUser u w id q.prompt,
        .ofAssistant u' w' id (String.join ((frames id).map (·.delta))) o.defaults.model 0 default] := by
  obtain ⟨x, m, t₁, t₂, hstream, rfl, hend⟩ : ∃ x m t₁ t₂, Runs κ (o.stream (fun f => perform (.emit (.ofFrame f))) p q)
      s t₁ x m ∧ t = t₁ ++ t₂ ∧ ∀ y, x = some y → Runs κ (endStream y) m t₂ r s' := by
    rcases runs_bind.mp hrun with ⟨x, m, t₁, t₂, hstream, hend, rfl⟩ | ⟨hstream, rfl⟩
    · exact ⟨some x, m, t₁, t₂, hstream, rfl, fun y hy => Option.some.inj hy ▸ hend⟩
    · exact ⟨none, s', t, [], hstream, by simp, fun y hy => nomatch hy⟩
  have hm : (out m).connected = true := by rw [h.runs_connected hstream, hs]
  have hready : ∀ {t id ms m}, ReadyRun κ o p q s t id ms m → (out m).connected = true ∧
      t.filterMap emitted? = [] ∧ t.filterMap appended? = [] ∧
      ∃ u m, u <+: t ∧ Runs κ (resolve p q.conversation) s u (some (.ok id)) m := by
    intro t id ms m ready
    have happended : t.filterMap appended? = [] :=
      List.filterMap_eq_nil_iff.mpr fun e he => appended?_eq_none (ready.preparing e he)
    have hconnected : (out m).connected = true := by rw [h.ready_connected ready, hs]
    have hemitted : t.filterMap emitted? = [] := preparing_emitted ready.preparing
    obtain ⟨valid, resolved, read⟩ := ready
    exact ⟨hconnected, hemitted, happended, _, _, List.prefix_append _ _, resolved⟩
  cases runs_stream hstream with
  | refused refused =>
    exact (refused.not_granted hvalid fun e he => hg e (List.mem_append_left _ he)).elim
  | silent ready opened relayed =>
    obtain ⟨hm, -⟩ := hready ready
    cases (h.runs_relayFeed (by rw [h.connected opened, hm]) relayed).1.trans (Feed.result_finished (hfeed opened).1)
  | failed ready opened relayed =>
    obtain ⟨hm, -⟩ := hready ready
    cases (h.runs_relayFeed (by rw [h.connected opened, hm]) relayed).1.trans (Feed.result_finished (hfeed opened).1)
  | @finished t id ms k feed k₁ t' text k₂ t'' _ ready opened relayed persisted =>
    obtain ⟨hk, hemitted, happended, u, m', hu, hresolved⟩ := hready ready
    obtain ⟨hending, hframes⟩ := hfeed opened
    have hk₁ : (out k₁).connected = true := by rw [h.connected opened, hk]
    obtain ⟨htext, hrelayed⟩ := h.runs_relayFeed hk₁ relayed
    obtain rfl := Except.ok.inj (Option.some.inj (htext.trans (Feed.result_finished hending)))
    obtain ⟨rfl, rfl⟩ := h.runs_emit hm (hend _ rfl)
    obtain ⟨u₁, w₁, u₂, w₂, happended'⟩ := persisted_appended persisted
    have hdeltas : feed.chunks.map (·.delta) = (frames id).map (·.delta) := by
      rw [← hframes id, List.map_map]
      rfl
    refine ⟨rfl, id, ⟨u, m', hu.trans ⟨_, (List.append_assoc _ _ _).symm⟩, hresolved⟩, ?_, u₁, w₁, u₂, w₂, ?_⟩
    · rw [← hframes id, List.map_map]
      simp only [List.filterMap_append, List.filterMap_cons, List.filterMap_nil, hemitted, hrelayed,
        persisted_emitted persisted, emitted?, List.append_nil, List.nil_append]
      rfl
    · simp only [List.filterMap_append, List.filterMap_cons, List.filterMap_nil, happended, relayed_appended relayed,
        happended', hdeltas, appended?, List.append_nil, List.nil_append]

lemma recorded?_of_accepted {e : Program.Event σ} (h : accepted e = true) : recorded? e = appended? e := by
  obtain ⟨c, a, m⟩ := e
  cases c with
  | appendMessage x =>
    cases a with
    | ok u => rfl
    | error e => cases h
  | _ => rfl

/-- What a store that accepts its messages has on record in the end. -/
lemma Keeps.runs {record : σ → List Message} (h : Keeps κ record) {α : Type} {f : Program α} {t r}
    (hrun : Runs κ f s t r s') (ht : ∀ e ∈ t, accepted e = true) : record s' = record s ++ t.filterMap appended? := by
  rw [hrun.grows record recorded? h, List.filterMap_congr fun e he => recorded?_of_accepted (ht e he)]

/-- A client that reads a body of frames in whatever pieces reads these frames and the end mark. -/
lemma readAll_frames {fs : List StreamFrame} {body : String} {limit : Nat} {pieces : List (List UInt8)}
    (hbody : body = String.ofList ((fs.map EventStream.Event.ofFrame ++ [EventStream.Event.ending]).flatMap
      EventStream.Event.chars))
    (hpieces : pieces.flatten = Text.utf8 body) (hlimit : pieces.flatten.length ≤ limit) :
    ∃ payloads : List String, (Decoder.fresh limit).readAll pieces = .ok (payloads.map .data ++ [.done]) ∧
      payloads.map (Json.decodeText StreamFrame.ofTree?) = fs.map some := by
  refine ⟨fs.map (·.toJson.text), ?_, ?_⟩
  · rw [Decoder.readAll_fresh (.of_length hlimit), hpieces, hbody, linesOf_frames, List.map_map]
    rfl
  · rw [List.map_map]
    apply List.map_congr_left
    intro f _
    rw [Function.comp_apply, f.decodeText_toJson]

/-- A request for a stream whose prompt is good is answered with a stream of events. For every 2xx answer of the backend
that arrives whole, and every caller who may use the conversation, what is written comes to an end and is faithful. -/
theorem complete_faithful (hout : Delivers κ out) {client : Client} {status : Nat} {pieces : List (List UInt8)}
    (hstatus : Client.isSuccess status = true) (hlines : Within Decoder.defaultLimit pieces.flatten)
    (hfeed : ∀ {r s a s'}, κ (.openFeed r) s a s' → a = client.feed (.answered status pieces .complete))
    {bodyLimit : Nat} {request : Http.Request} (hread : readRequest bodyLimit request = .ok q)
    (hstream : q.stream = true) (hvalid : o.validate q = .ok ()) :
    complete o bodyLimit p request = .done ⟨Reply.eventHead, .events (writeStream o p q)⟩ ∧
      ∀ s t r s', Runs κ (writeStream o p q) s t r s' → out s = .opened → (∀ e ∈ t, granted p e = true) →
        r = some () ∧ ∃ id, Faithful κ out o p q pieces.flatten s t s' id := by
  refine ⟨by simp only [complete, hread, hstream, hvalid, if_true], ?_⟩
  intro s t r s' hrun hs hg
  have hframes : ∀ {r s a s'}, κ (.openFeed r) s a s' →
      a.ending = .finished ∧ ∀ id, a.chunks.map (·.frame id) = framesOf pieces.flatten id := by
    intro r s a s' hc
    rw [hfeed hc]
    exact ⟨by rw [Client.feed_eq hstatus hlines], Client.feed_frames hstatus hlines⟩
  obtain ⟨hr, id, hresolved, hemitted, happended⟩ := hout.runs_writeStream hframes hvalid (by rw [hs]; rfl) hrun hg
  refine ⟨hr, id, hresolved, ?_, happended, fun record hrecord ht => hrecord.runs hrun ht⟩
  intro limit cut hcut hlimit
  exact readAll_frames (by rw [Emitter.body, hout.told hs hrun, hemitted]) hcut hlimit

/-! A stream of one frame. The backend sends a chunk without a choice, one with two choices, the end mark and another
chunk, and the first piece ends inside a line. -/

/-- The text of a chunk, with a choice for each content. -/
def chunkText (id : String) (contents : List String) : String :=
  (Json.object [("id", .string id), ("choices", .array (contents.map fun c =>
    .object [("delta", .object [("content", .string c)])]))]).text

def greetingBody : List UInt8 :=
  Text.utf8 (String.ofList (([chunkText "0" [], chunkText "1" ["Hi", "Ho"], endMark, chunkText "2" ["Bye"]].map
    (EventStream.Event.mk none)).flatMap EventStream.Event.chars))

def greetingPieces : List (List UInt8) := [greetingBody.take 9, greetingBody.drop 9]

def greetingFeed : Feed := ⟨[⟨"1", "Hi", none, none⟩], .finished⟩

lemma greetingPieces_flatten : greetingPieces.flatten = greetingBody := by simp [greetingPieces]

lemma linesOf_greeting : linesOf greetingBody =
    [.data (chunkText "0" []), .data (chunkText "1" ["Hi", "Ho"]), .done, .data (chunkText "2" ["Bye"])] := by
  have hclean : ∀ data ∈ [chunkText "0" [], chunkText "1" ["Hi", "Ho"], endMark, chunkText "2" ["Bye"]],
      Clean data.toList := by
    simp only [List.forall_mem_cons, List.not_mem_nil]
    exact ⟨clean_text _, clean_text _, clean_endMark, clean_text _, fun _ h => nomatch h⟩
  have hdata : ∀ id contents, dataLine (chunkText id contents) = .data (chunkText id contents) :=
    fun id contents => dataLine_text _
  rw [greetingBody, linesOf_body hclean]
  simp only [List.map_cons, List.map_nil, hdata]
  rfl

lemma chunkOfPayload?_chunkText :
    Client.chunkOfPayload? (chunkText "0" []) = none ∧
    Client.chunkOfPayload? (chunkText "1" ["Hi", "Ho"]) = some ⟨"1", "Hi", none, none⟩ := by
  unfold Client.chunkOfPayload? chunkText
  rw [Json.Tree.ofText, Json.parse_text, Json.Tree.ofText, Json.parse_text]
  exact ⟨rfl, rfl⟩

lemma greeting_within : Within Decoder.defaultLimit greetingPieces.flatten := by
  apply Within.of_length
  rw [greetingPieces_flatten]
  decide +kernel

lemma greeting_success : Client.isSuccess 200 = true := by decide

lemma feed_greeting (c : Client) : c.feed (.answered 200 greetingPieces .complete) = greetingFeed := by
  obtain ⟨hchoiceless, hgreeting⟩ := chunkOfPayload?_chunkText
  rw [Client.feed_eq greeting_success greeting_within, greetingPieces_flatten, linesOf_greeting,
    Client.chunksOfLines_fst]
  simp only [payloads_data, payloads_done, List.filterMap_cons, List.filterMap_nil, hchoiceless, hgreeting]
  rfl

/-- A store in memory and the response of a client that stays. -/
def present : Handler (Memory × Emitter)
  | .emit e, s => let r := s.2.write e; (r.1, (s.1, r.2))
  | c, s => let r := steady ⟨"", "", "", none, none⟩ greetingFeed c s.1; (r.1, (r.2, s.2))

def presence : Conduct (Memory × Emitter) := fun c s a s' => present c s = (a, s')

lemma presence_delivers : Delivers presence Prod.snd where
  written h := by
    obtain ⟨rfl, rfl⟩ := Prod.ext_iff.mp h
    rfl
  silent := by
    intro c s a s' h hc
    obtain ⟨rfl, rfl⟩ := Prod.ext_iff.mp h
    cases c <;> first | rfl | exact absurd rfl (hc _)

lemma presence_keeps : Keeps presence (·.1.messages) := by
  intro c s a s' h
  obtain ⟨rfl, rfl⟩ := Prod.ext_iff.mp h
  cases c with
  | createConversation c => simp [present, steady, recorded?]
  | appendMessage m =>
    cases hfound : s.1.find? m.conversation with
    | none => simp [present, steady, append_absent hfound, recorded?]
    | some c => simp [present, steady, append_present hfound, recorded?]
  | _ => simp [present, steady, recorded?]

def greeter : Orchestrator := ⟨.none, 1, 100, ⟨"m", default, 0⟩, 0⟩

def greetingQuery : PipelineRequest := ⟨"Hello", none, true, none, none, none⟩

def greetingRequest : Http.Request :=
  ⟨"POST", "/v1/complete", none, [("content-type", Text.utf8 "application/json")],
    Text.utf8 greetingQuery.toJson.text, none⟩

lemma greeting_read : readRequest greetingRequest.body.length greetingRequest = .ok greetingQuery := by
  have hjson : hasJsonBody greetingRequest = true := by
    have htype : Http.headerText? (Text.utf8 "application/json") = some "application/json" := by
      rw [Http.headerText?, if_pos (by decide), Text.decodeLossy_utf8]
    have hheader : (greetingRequest.header? "content-type").bind Http.headerText? =
        Http.headerText? (Text.utf8 "application/json") := rfl
    rw [hasJsonBody, hheader, htype]
    decide
  have hbody : Json.decodeBytes PipelineRequest.ofTree? greetingRequest.body = some greetingQuery := by
    rw [show greetingRequest.body = Text.utf8 greetingQuery.toJson.text from rfl, Json.decodeBytes_text]
    rfl
  simp [readRequest, hjson, hbody]

def greetingRun : List (Program.Event (Memory × Emitter)) × Option Unit × Memory × Emitter :=
  (writeStream greeter ⟨"alice"⟩ greetingQuery).record present (.empty, .opened)

theorem complete_faithful_greeting :
    complete greeter greetingRequest.body.length ⟨"alice"⟩ greetingRequest =
      .done ⟨Reply.eventHead, .events (writeStream greeter ⟨"alice"⟩ greetingQuery)⟩ ∧
    ∃ id, Faithful presence Prod.snd greeter ⟨"alice"⟩ greetingQuery greetingBody (.empty, .opened) greetingRun.1
        greetingRun.2.2 id ∧
      framesOf greetingBody id = [⟨"1", id, "Hi", none, none⟩] ∧
      greetingRun.2.2.1.messages = greetingRun.1.filterMap appended? ∧
      greetingRun.2.2.1.messages.map Message.turn = [⟨.user, "Hello"⟩, ⟨.assistant, "Hi"⟩] := by
  have hfeed : ∀ {r s a s'}, presence (.openFeed r) s a s' →
      a = (Client.new "" "" "" ⟨0, 0, 0⟩).feed (.answered 200 greetingPieces .complete) := by
    intro r s a s' h
    rw [feed_greeting]
    exact (congrArg Prod.fst h).symm
  have hrun : Runs presence (writeStream greeter ⟨"alice"⟩ greetingQuery) (.empty, .opened) greetingRun.1
      greetingRun.2.1 greetingRun.2.2 := record_runs (fun _ _ => rfl) _ _
  obtain ⟨hreply, hfaithful⟩ := complete_faithful (o := greeter) (p := ⟨"alice"⟩) presence_delivers
    greeting_success greeting_within hfeed greeting_read rfl rfl
  obtain ⟨-, id, h⟩ := hfaithful _ _ _ _ hrun rfl (by decide)
  rw [greetingPieces_flatten] at h
  refine ⟨hreply, id, h, ?_, h.persisted _ presence_keeps (by decide), rfl⟩
  rw [← greetingPieces_flatten, ← Client.feed_frames (c := .new "" "" "" ⟨0, 0, 0⟩) greeting_success greeting_within,
    feed_greeting]
  rfl

end Gateway
end CompletionGateway
