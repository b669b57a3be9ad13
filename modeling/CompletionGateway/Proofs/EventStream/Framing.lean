import CompletionGateway.Proofs.EventStream.Bodies
import CompletionGateway.Proofs.EventStream.Overlong

/-! The emitter and the decoder agree on the framing of events. Whatever is written on a stream, a decoder that accepts
the lines of the payloads reads the payloads from the body, each once and in order, and behind them the end mark. No
payload is taken for more than one line or for the end mark. -/
namespace CompletionGateway.EventStream
open Text Text.Utf8

/-- What may be written on a stream before it is closed. -/
inductive Writing where
  /-- A payload of any kind, under the name `error` or under none. -/
  | event (named : Bool) (payload : Json)
  | frame (f : StreamFrame)
  | failure (message : String)

namespace Writing

def payload : Writing → Json
  | event _ payload => payload
  | frame f => f.toJson
  | failure message => .object [("error", .string message)]

/-- The event that carries the payload. -/
def carrier : Writing → Event
  | event named payload => .ofJson (if named then some "error" else none) payload
  | frame f => .ofFrame f
  | failure message => .ofFailure message

@[simp] lemma carrier_data (w : Writing) : w.carrier.data = w.payload.text := by cases w <;> rfl

lemma carrier_name (w : Writing) : ∀ n ∈ w.carrier.name, n = "error" := by
  intro n hn
  cases w with
  | event named payload => cases named <;> cases hn; rfl
  | frame f => cases hn
  | failure message => cases hn; rfl

lemma carrier_plain (w : Writing) : w.carrier.Plain := by
  refine ⟨fun n hn => ?_, by rw [carrier_data]; exact clean_text _⟩
  rw [w.carrier_name n hn]
  decide

end Writing

namespace Emitter

/-- The emitter behind some writings. -/
def after (m : Emitter) (ws : List Writing) : Emitter := ws.foldl (fun m w => (m.write w.carrier).2) m

/-- The emitter of a stream that is closed behind some writings, with a client that has listened to all of it. -/
def closed (ws : List Writing) : Emitter := ((opened.after ws).write .ending).2

lemma after_eq (written : List Event) (ws : List Writing) :
    after ⟨written, true⟩ ws = ⟨(ws.map Writing.carrier).reverse ++ written, true⟩ := by
  induction ws generalizing written with
  | nil => rfl
  | cons w ws ih =>
    have hstep : after ⟨written, true⟩ (w :: ws) = after ⟨w.carrier :: written, true⟩ ws := rfl
    rw [hstep, ih, List.map_cons, List.reverse_cons, List.append_assoc]
    rfl

lemma events_closed (ws : List Writing) : (closed ws).events = ws.map Writing.carrier ++ [.ending] := by
  rw [closed, opened, after_eq, List.append_nil, write, if_pos rfl, events, List.reverse_cons, List.reverse_reverse]

end Emitter

/-- The data that is written, the end mark being the last. -/
def written (ws : List Writing) : List String := ws.map (·.payload.text) ++ [endMark]

/-- A decoder accepts the data lines of all that is written. -/
def Fits (limit : Nat) (ws : List Writing) : Prop := ∀ data ∈ written ws, (utf8 ("data: " ++ data)).length ≤ limit

instance (limit : Nat) (ws : List Writing) : Decidable (Fits limit ws) :=
  inferInstanceAs (Decidable (∀ data ∈ written ws, (utf8 ("data: " ++ data)).length ≤ limit))

lemma closed_plain (ws : List Writing) : ∀ e ∈ ws.map Writing.carrier ++ [.ending], e.Plain := by
  intro e he
  rcases List.mem_append.mp he with he | he
  · obtain ⟨w, -, rfl⟩ := List.mem_map.mp he
    exact w.carrier_plain
  · rw [List.mem_singleton.mp he]
    exact ⟨by simp [Event.ending], clean_endMark⟩

lemma closed_name (ws : List Writing) : ∀ e ∈ ws.map Writing.carrier ++ [.ending], ∀ n ∈ e.name, n = "error" := by
  intro e he
  rcases List.mem_append.mp he with he | he
  · obtain ⟨w, -, rfl⟩ := List.mem_map.mp he
    exact w.carrier_name
  · rw [List.mem_singleton.mp he]
    simp [Event.ending]

lemma closed_data (ws : List Writing) : (ws.map Writing.carrier ++ [Event.ending]).map (·.data) = written ws := by
  simp [written, Event.ending]

/-- A body has no line that is too long if its data lines are not. Names are no longer than the end mark. -/
lemma within_closed {limit : Nat} {ws : List Writing} :
    Within limit (utf8 (Emitter.closed ws).body) ↔ Fits limit ws := by
  have hlength : ∀ data : String, encoded ("data: ".toList ++ data.toList) = utf8 ("data: " ++ data) := by
    intro data
    rw [utf8_eq_encoded, String.toList_append]
  rw [Emitter.body, Emitter.events_closed, Within, rawLines_events (closed_plain ws)]
  constructor
  · intro hwithin data hdata
    rw [← closed_data] at hdata
    obtain ⟨e, he, rfl⟩ := List.mem_map.mp hdata
    rw [← hlength]
    refine hwithin _ (List.mem_append_left _ (List.mem_map_of_mem (List.mem_flatMap.mpr ⟨e, he, ?_⟩)))
    simp [Event.lines]
  · intro hfits l hl
    rcases List.mem_append.mp hl with hl | hl
    · obtain ⟨cs, hcs, rfl⟩ := List.mem_map.mp hl
      obtain ⟨e, he, hcs⟩ := List.mem_flatMap.mp hcs
      rcases List.mem_append.mp hcs with hcs | hcs
      · obtain ⟨n, hn, rfl⟩ := List.mem_map.mp hcs
        rw [closed_name ws e he n (Option.mem_toList.mp hn)]
        exact hfits endMark (by simp [written])
      · rcases List.mem_pair.mp hcs with rfl | rfl
        · rw [hlength]
          exact hfits _ (by rw [← closed_data]; exact List.mem_map_of_mem he)
        · exact Nat.zero_le _
    · rw [List.mem_singleton.mp hl]
      exact Nat.zero_le _

/-- However the body is cut into pieces, a decoder that accepts its data lines reads every payload from it and the end
mark, and nothing else. A decoder that does not accept them reads nothing to the end. -/
theorem readAll_closed (ws : List Writing) (limit : Nat) {pieces : List (List UInt8)}
    (h : pieces.flatten = utf8 (Emitter.closed ws).body) :
    (Decoder.fresh limit).readAll pieces =
      if Fits limit ws then .ok (ws.map (fun w => .data w.payload.text) ++ [.done])
      else .error (Decoder.oversized limit) := by
  split
  · rename_i hfits
    rw [Decoder.readAll_fresh (by rw [h]; exact within_closed.mpr hfits), h, Emitter.body, Emitter.events_closed,
      linesOf_events (closed_plain ws), List.map_append, List.map_map]
    simp only [Function.comp_def, Writing.carrier_data, dataLine_text]
    rfl
  · rename_i hlong
    refine Decoder.readAll_overlong (d := .fresh limit) (.of_length (Nat.zero_le _)) ?_
    have hbuffer : (Decoder.fresh limit).buffer ++ pieces.flatten = utf8 (Emitter.closed ws).body := h
    rw [hbuffer]
    exact fun hwithin => hlong (within_closed.mp hwithin)

/-- Payloads that look like lines, like the end mark, and like nothing. -/
def confusing : List Writing :=
  [.failure "\ndata: [DONE]\n\n", .event true (.string "[DONE]"), .event false (.integer 7), .event false (.string " ")]

theorem readAll_closed_confusing :
    ((utf8 (Emitter.closed confusing).body).map ([·])).flatten = utf8 (Emitter.closed confusing).body ∧
    (Decoder.fresh 48).readAll ((utf8 (Emitter.closed confusing).body).map ([·])) =
      .ok [.data "\x7b\"error\":\"\\ndata: [DONE]\\n\\n\"\x7d", .data "\"[DONE]\"", .data "7", .data "\" \"",
        .done] := by
  have hflatten : ((utf8 (Emitter.closed confusing).body).map ([·])).flatten = utf8 (Emitter.closed confusing).body :=
    (List.flatMap_def ..).symm.trans (List.flatMap_singleton' _)
  have hfits : Fits 48 confusing := by decide +kernel
  refine ⟨hflatten, ?_⟩
  rw [readAll_closed confusing 48 hflatten, if_pos hfits]
  rfl

end CompletionGateway.EventStream
