import CompletionGateway.Completion.Client
import CompletionGateway.Proofs.EventStream.Lines

/-! What a client makes of a streamed answer. A body that arrives whole gives one chunk for each payload in front of the
end mark that is a stream response and offers a choice, in whatever pieces it arrives. -/
namespace CompletionGateway
open EventStream Json Json.Decode

/-- The payload that a line carries. -/
def EventStream.Line.payload? : Line → Option String
  | .data payload => some payload
  | .done => none

/-- The payloads in front of the first end mark. -/
def payloads (ls : List Line) : List String := (ls.takeWhile (· ≠ .done)).filterMap Line.payload?

@[simp] lemma payloads_done (ls : List Line) : payloads (.done :: ls) = [] := rfl
@[simp] lemma payloads_data (s : String) (ls : List Line) : payloads (.data s :: ls) = s :: payloads ls := rfl

/-- What a backend streams: identifier, model and choices, of each its content and why the answer ended. -/
structure StreamResponse where
  id : String
  model : Option String
  choices : List (Option String × Option String)

namespace StreamResponse

def ofText? (payload : String) : Option StreamResponse := do
  let t ← Tree.ofText payload
  let fs ← fields ["id", "model", "choices"] t
  some ⟨← withDefault text "" fs 0, ← maybe text fs 1, ← withDefault (listOf Client.streamChoiceOfTree?) [] fs 2⟩

/-- The first choice as a frame of a conversation. -/
def frame? (r : StreamResponse) (id : ConversationId) : Option StreamFrame :=
  r.choices.head?.map fun c => ⟨r.id, id, c.1.getD "", c.2, r.model.filter fun m => !m.isEmpty⟩

end StreamResponse

/-- The frames that a body calls for in a conversation. -/
def framesOf (body : List UInt8) (id : ConversationId) : List StreamFrame :=
  (payloads (linesOf body)).filterMap fun s => (StreamResponse.ofText? s).bind (·.frame? id)

namespace Client

lemma frame_chunkOfPayload? (s : String) (id : ConversationId) :
    (chunkOfPayload? s).map (·.frame id) = (StreamResponse.ofText? s).bind (·.frame? id) := by
  unfold chunkOfPayload? StreamResponse.ofText?
  cases Tree.ofText s with
  | none => rfl
  | some t =>
    simp only [Option.bind_eq_bind, Option.bind_some]
    cases fields ["id", "model", "choices"] t with
    | none => rfl
    | some fs =>
      simp only [Option.bind_some]
      cases withDefault text "" fs 0 with
      | none => rfl
      | some i =>
        simp only [Option.bind_some]
        cases maybe text fs 1 with
        | none => rfl
        | some model =>
          simp only [Option.bind_some]
          cases withDefault (listOf streamChoiceOfTree?) [] fs 2 with
          | none => rfl
          | some choices => cases choices <;> rfl

lemma chunksOfLines_data (s : String) (ls : List Line) : chunksOfLines (.data s :: ls) =
    ((chunkOfPayload? s).toList ++ (chunksOfLines ls).1, (chunksOfLines ls).2) := rfl

lemma chunksOfLines_fst (ls : List Line) : (chunksOfLines ls).1 = (payloads ls).filterMap chunkOfPayload? := by
  induction ls with
  | nil => rfl
  | cons l ls ih =>
    cases l with
    | done => rfl
    | data s =>
      rw [chunksOfLines_data, payloads_data, List.filterMap_cons, ih]
      cases chunkOfPayload? s <;> rfl

/-- Lines behind an end mark do not count. -/
lemma chunksOfLines_append (ls ls' : List Line) : (chunksOfLines (ls ++ ls')).1 =
    if (chunksOfLines ls).2 then (chunksOfLines ls).1 else (chunksOfLines ls).1 ++ (chunksOfLines ls').1 := by
  induction ls with
  | nil => rfl
  | cons l ls ih =>
    cases l with
    | done => rfl
    | data s =>
      rw [List.cons_append, chunksOfLines_data, chunksOfLines_data, ih]
      by_cases hdone : (chunksOfLines ls).2 = true
      · rw [if_pos hdone, if_pos hdone]
      · rw [if_neg hdone, if_neg hdone, List.append_assoc]

lemma readFeed_eq {d : Decoder} {pieces : List (List UInt8)} (hbuffer : 10 ∉ d.buffer)
    (h : Within d.limit (d.buffer ++ pieces.flatten)) :
    readFeed d .complete pieces = ⟨(chunksOfLines (linesOf (d.buffer ++ pieces.flatten))).1, .finished⟩ := by
  induction pieces generalizing d with
  | nil => rw [readFeed, Decoder.finish_eq hbuffer, List.flatten_nil, List.append_nil]
  | cons piece pieces ih =>
    obtain ⟨lines, last, hpush, hlast, hmore, hlines⟩ := Decoder.push_eq h
    rw [readFeed, hpush, List.flatten_cons, hlines, chunksOfLines_append]
    dsimp only
    split
    · rfl
    · rw [ih hlast hmore, prependChunks]

/-- A body that arrives whole is a feed that ends well. -/
lemma feed_eq {c : Client} {status : Nat} {pieces : List (List UInt8)} (hstatus : isSuccess status = true)
    (h : Within Decoder.defaultLimit pieces.flatten) :
    c.feed (.answered status pieces .complete) = ⟨(chunksOfLines (linesOf pieces.flatten)).1, .finished⟩ := by
  have hfeed : c.feed (.answered status pieces .complete) = readFeed (.fresh Decoder.defaultLimit) .complete pieces :=
    if_pos hstatus
  rw [hfeed]
  exact readFeed_eq (d := .fresh Decoder.defaultLimit) List.not_mem_nil h

/-- Its chunks make the frames that the body calls for. -/
theorem feed_frames {c : Client} {status : Nat} {pieces : List (List UInt8)} (hstatus : isSuccess status = true)
    (h : Within Decoder.defaultLimit pieces.flatten) (id : ConversationId) :
    (c.feed (.answered status pieces .complete)).chunks.map (·.frame id) = framesOf pieces.flatten id := by
  rw [feed_eq hstatus h, chunksOfLines_fst, List.map_filterMap]
  exact congrArg (List.filterMap · _) (funext fun s => frame_chunkOfPayload? s id)

end Client
end CompletionGateway
