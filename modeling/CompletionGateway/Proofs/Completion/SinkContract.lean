import CompletionGateway.Proofs.Completion.Cuts
import CompletionGateway.Proofs.Gateway.StreamFidelity
import CompletionGateway.Proofs.Program.Handing

/-! A client honours its sink. Of a body without a line that is too long the sink is offered the chunks of the payloads in
front of the end mark, in order and each once, in whatever pieces the body arrives and wherever it breaks off. A refusal
ends the reading, and a break is reported unless the end mark came first. -/
namespace CompletionGateway
open Program EventStream

namespace Client
variable {c : Client} {sink : ChunkSink} {ending : BodyEnd} {status : Nat} {received : List UInt8}
  {pieces : List (List UInt8)}

/-! ### Reading and handing on -/

lemma forward_eq (sink : ChunkSink) (payload : String) :
    forward sink payload = handAll sink (chunkOfPayload? payload).toList := by
  rw [forward]
  cases chunkOfPayload? payload with
  | none => rfl
  | some c => exact (handAll_singleton sink c).symm

lemma deliver_finished (sink : ChunkSink) (cs : List Chunk) : Feed.deliver ⟨cs, .finished⟩ sink = handAll sink cs := by
  refine bind_eq_self ?_
  rintro (e | u) <;> rfl

lemma deliver_prependChunks (sink : ChunkSink) (cs : List Chunk) (feed : Feed) :
    (prependChunks cs feed).deliver sink = (handAll sink cs).bind fun
      | .ok () => feed.deliver sink
      | .error e => .done (.error e) := by
  rw [Feed.deliver, prependChunks, handAll_append, bind_assoc]
  refine bind_eq_bind _ ?_
  rintro (e | u) <;> rfl

/-- Lines are handed on up to the end mark. -/
lemma forwardLines_eq (sink : ChunkSink) (ls : List Line) : forwardLines sink ls =
    (handAll sink (chunksOfLines ls).1).bind fun
      | .ok () => .done (.ok (chunksOfLines ls).2)
      | .error e => .done (.error e) := by
  induction ls with
  | nil => rfl
  | cons l ls ih =>
    cases l with
    | done => rfl
    | data payload =>
      rw [forwardLines, chunksOfLines_data, handAll_append, bind_assoc, forward_eq]
      refine bind_eq_bind _ ?_
      rintro (e | u)
      · rfl
      · exact ih

lemma forwardBody_eq (sink : ChunkSink) (d : Decoder) (ending : BodyEnd) (pieces : List (List UInt8)) :
    forwardBody sink d ending pieces = (readFeed d ending pieces).deliver sink := by
  induction pieces generalizing d with
  | nil =>
    cases ending with
    | complete =>
      rw [forwardBody, readFeed, deliver_finished]
      generalize d.finish.1 = last
      rcases last with _ | payload | _
      · rfl
      · exact (forward_eq sink payload).trans (by simp [chunksOfLines])
      · rfl
    | broken reason => rfl
    | timedOut reason => rfl
  | cons piece pieces ih =>
    rw [forwardBody, readFeed]
    generalize d.push piece = pushed
    obtain ⟨e | lines, d'⟩ := pushed
    · rfl
    · dsimp only
      rw [forwardLines_eq, bind_assoc]
      by_cases hmark : (chunksOfLines lines).2 = true
      · rw [if_pos hmark, Feed.deliver]
        refine bind_eq_bind _ ?_
        rintro (e | u)
        · rfl
        · dsimp only [Program.bind]
          rw [hmark]
      · rw [if_neg hmark, deliver_prependChunks]
        refine bind_eq_bind _ ?_
        rintro (e | u)
        · rfl
        · dsimp only [Program.bind]
          rw [Bool.eq_false_iff.mpr hmark]
          exact ih d'

/-- Handing on chunks while reading is the same as reading the whole feed and handing that on. -/
theorem stream_eq (c : Client) (sink : ChunkSink) (x : Exchange) : c.stream sink x = (c.feed x).deliver sink := by
  cases x with
  | answered status pieces ending =>
    rw [stream, feed]
    split
    · exact forwardBody_eq sink _ ending pieces
    · rfl
  | _ => rfl

/-! ### Bodies that may break off -/

/-- How a feed ends that no end mark ends. -/
def feedEnd : BodyEnd → FeedEnd
  | .complete => .finished
  | .broken reason => .failed (.streamInterrupted reason)
  | .timedOut reason => .failed (.streamInterrupted reason)

/-- What the lines carry that count when a body is over: all of them if it has come to its end, and otherwise those that
a line feed has ended. -/
def linesUpTo : BodyEnd → List UInt8 → List Line
  | .complete, body => linesOf body
  | .broken _, body => completed body
  | .timedOut _, body => completed body

/-- The chunks that a body calls for. -/
def chunksUpTo (ending : BodyEnd) (body : List UInt8) : List Chunk :=
  (payloads (linesUpTo ending body)).filterMap chunkOfPayload?

lemma linesUpTo_append {xs : List UInt8} {init : List (List UInt8)} {last : List UInt8}
    (h : rawLines xs = init ++ [last]) (ys : List UInt8) :
    linesUpTo ending (xs ++ ys) = init.filterMap parseLine ++ linesUpTo ending (last ++ ys) := by
  cases ending with
  | complete => rw [linesUpTo, linesOf, rawLines_append h, List.filterMap_append]; rfl
  | broken reason => exact completed_append h ys
  | timedOut reason => exact completed_append h ys

/-- Lines that a line feed has ended count however the body goes on. -/
lemma completed_prefix_linesUpTo (ending : BodyEnd) (xs ys : List UInt8) : completed xs <+: linesUpTo ending (xs ++ ys) := by
  obtain ⟨init, last, hlines⟩ := exists_rawLines xs
  rw [completed_eq hlines, linesUpTo_append hlines]
  exact List.prefix_append _ _

lemma chunksOfLines_snd (ls : List Line) : (chunksOfLines ls).2 = true ↔ .done ∈ ls := by
  induction ls with
  | nil => simp [chunksOfLines]
  | cons l ls ih =>
    cases l with
    | done => simp [chunksOfLines]
    | data s => simp [chunksOfLines_data, ih]

lemma feedOfLines_marked {last : FeedEnd} {ls : List Line} (h : .done ∈ ls) :
    (feedOfLines last ls).ending = .finished := if_pos ((chunksOfLines_snd ls).mpr h)

lemma feedOfLines_unmarked {last : FeedEnd} {ls : List Line} (h : .done ∉ ls) : (feedOfLines last ls).ending = last :=
  if_neg (mt (chunksOfLines_snd ls).mp h)

lemma readFeed_within {d : Decoder} (hbuffer : 10 ∉ d.buffer) (h : Within d.limit (d.buffer ++ pieces.flatten)) :
    readFeed d ending pieces = feedOfLines (feedEnd ending) (linesUpTo ending (d.buffer ++ pieces.flatten)) := by
  induction pieces generalizing d with
  | nil =>
    rw [List.flatten_nil, List.append_nil]
    cases ending with
    | complete => rw [readFeed, Decoder.finish_eq hbuffer, feedOfLines, feedEnd, ite_self]; rfl
    | broken reason => rw [linesUpTo, completed_of_not_mem hbuffer]; rfl
    | timedOut reason => rw [linesUpTo, completed_of_not_mem hbuffer]; rfl
  | cons piece pieces ih =>
    rw [List.flatten_cons, ← List.append_assoc] at h
    obtain ⟨init, last, hlines, hlast, hpush⟩ := Decoder.push_ok h.of_append
    have hmore : Within d.limit (last ++ pieces.flatten) := (within_append_iff hlines h.of_append _).mp h
    rw [readFeed, hpush, List.flatten_cons, ← List.append_assoc, linesUpTo_append hlines, feedOfLines_append]
    dsimp only
    rw [ih hlast hmore]

/-- Reading and handing on a body whose lines are not too long. -/
lemma stream_answered (hstatus : isSuccess status = true) (h : Within Decoder.defaultLimit pieces.flatten) :
    c.stream sink (.answered status pieces ending) =
      (feedOfLines (feedEnd ending) (linesUpTo ending pieces.flatten)).deliver sink := by
  have hfeed : c.feed (.answered status pieces ending) = readFeed (.fresh Decoder.defaultLimit) ending pieces :=
    if_pos hstatus
  rw [stream_eq, hfeed, readFeed_within (d := .fresh Decoder.defaultLimit) List.not_mem_nil h]
  rfl

/-! ### The contract -/

/-- A client has handed on what it was sent of a body. Its sink was offered chunks, and has answered so in the end. -/
structure Honoured {σ : Type} (κ : Conduct σ) (sink : ChunkSink) (ending : BodyEnd) (received : List UInt8) (s : σ)
    (t : List (Program.Event σ)) (r : Option (Except ProviderError Unit)) (s' : σ) (offered : List Chunk)
    (answer : Option (Except ProviderError Unit)) : Prop where
  /-- The sink was offered these chunks one by one, and none behind a refusal. -/
  offering : Offered κ sink s t offered answer s'
  inOrder : offered <+: chunksUpTo ending received
  refused : ∀ e, answer = some (.error e) → r = some (.error e)
  unanswered : answer = none → r = none
  whole : answer = some (.ok ()) → offered = chunksUpTo ending received
  /-- If nothing was refused the client succeeds, unless the body broke off in front of the end mark. -/
  finished : answer = some (.ok ()) → ending = .complete ∨ .done ∈ completed received → r = some (.ok ())
  interrupted : answer = some (.ok ()) → .done ∉ completed received →
    ∀ reason, ending = .broken reason ∨ ending = .timedOut reason → r = some (.error (.streamInterrupted reason))
  /-- What has been sent of a body that broke off calls for the first of the chunks that the whole body calls for, -/
  beginning : ending ≠ .complete → ∀ ending' rest, chunksUpTo ending received <+: chunksUpTo ending' (received ++ rest)
  /-- and for all of them if the end mark is among it. -/
  settled : .done ∈ completed received → ∀ ending' rest,
    chunksUpTo ending' (received ++ rest) = chunksUpTo ending received

lemma chunksUpTo_eq (ending : BodyEnd) (body : List UInt8) :
    chunksUpTo ending body = (chunksOfLines (linesUpTo ending body)).1 := (chunksOfLines_fst _).symm

lemma chunksOfLines_prefix {ls ls' : List Line} (h : ls <+: ls') : (chunksOfLines ls).1 <+: (chunksOfLines ls').1 := by
  obtain ⟨more, rfl⟩ := h
  rw [chunksOfLines_append]
  split
  · exact List.prefix_rfl
  · exact List.prefix_append _ _

/-- Chunks behind the end mark do not count. -/
lemma chunksUpTo_marked (hmark : .done ∈ completed received) (rest : List UInt8) :
    chunksUpTo ending (received ++ rest) = (chunksOfLines (completed received)).1 := by
  obtain ⟨more, hlines⟩ := completed_prefix_linesUpTo ending received rest
  rw [chunksUpTo_eq, ← hlines, chunksOfLines_append, if_pos ((chunksOfLines_snd _).mpr hmark)]

lemma linesUpTo_eq_completed (h : ending ≠ .complete) (body : List UInt8) : linesUpTo ending body = completed body := by
  cases ending with
  | complete => exact absurd rfl h
  | broken reason => rfl
  | timedOut reason => rfl

/-- Whatever the collaborators of a sink do, a client honours it: for every 2xx answer without a line that is too long, in
whatever pieces it is sent and wherever it breaks off. -/
theorem stream_honours (hstatus : isSuccess status = true) (h : Within Decoder.defaultLimit pieces.flatten)
    {σ : Type} {κ : Conduct σ} {s s' : σ} {t r} (hrun : Runs κ (c.stream sink (.answered status pieces ending)) s t r s') :
    ∃ offered answer, Honoured κ sink ending pieces.flatten s t r s' offered answer := by
  rw [stream_answered hstatus h] at hrun
  obtain ⟨offered, answer, hoffered, hfront, hall, rfl⟩ := Feed.runs_deliver hrun
  refine ⟨offered, answer, {
    offering := hoffered
    inOrder := by rw [chunksUpTo_eq]; exact hfront
    refused := fun e he => by rw [he]; rfl
    unanswered := fun he => by rw [he]; rfl
    whole := fun hok => by rw [chunksUpTo_eq]; exact hall hok
    finished := ?_
    interrupted := ?_
    beginning := ?_
    settled := ?_ }⟩
  · intro hok hend
    refine Feed.verdict_eq_ok.mpr ⟨hok, ?_⟩
    rcases hend with rfl | hmark
    · exact ite_self _
    · obtain ⟨more, hlines⟩ := completed_prefix_linesUpTo ending pieces.flatten []
      rw [List.append_nil] at hlines
      exact feedOfLines_marked (hlines ▸ List.mem_append_left _ hmark)
  · intro hok hunmarked reason hbroken
    rw [hok]
    refine Feed.verdict_eq_error.mpr (Feed.firstFailure?_of_failed ?_)
    rcases hbroken with rfl | rfl <;> exact feedOfLines_unmarked hunmarked
  · intro hbroken ending' rest
    rw [chunksUpTo_eq, chunksUpTo_eq, linesUpTo_eq_completed hbroken]
    exact chunksOfLines_prefix (completed_prefix_linesUpTo ending' _ rest)
  · intro hmark ending' rest
    rw [chunksUpTo_marked hmark, ← chunksUpTo_marked hmark [], List.append_nil]

/-! A consumer that wants nothing. The backend sends a chunk without a choice, one with two choices, the end mark and
another chunk. -/

def refusal : Except ProviderError Unit := .error (.aborted "receiver closed")

lemma chunksUpTo_greeting : chunksUpTo .complete Gateway.greetingBody = [⟨"1", "Hi", none, none⟩] := by
  have hfeed := Gateway.feed_greeting (.new "" "" "" ⟨0, 0, 0⟩)
  rw [feed_eq Gateway.greeting_success Gateway.greeting_within, Gateway.greetingPieces_flatten] at hfeed
  rw [chunksUpTo_eq, linesUpTo]
  exact (Feed.mk.inj hfeed).1

theorem stream_honours_refusing : isSuccess 200 = true ∧ Within Decoder.defaultLimit Gateway.greetingPieces.flatten ∧
    ∃ offered answer, Honoured (fun _ _ _ _ => False) (fun _ => .done refusal) .complete Gateway.greetingBody () []
        (some refusal) () offered answer ∧
      answer = some refusal ∧ offered = [⟨"1", "Hi", none, none⟩] := by
  refine ⟨Gateway.greeting_success, Gateway.greeting_within, ?_⟩
  have hrun : Runs (fun _ _ _ _ => False) ((Client.new "" "" "" ⟨0, 0, 0⟩).stream (fun _ => .done refusal)
      (.answered 200 Gateway.greetingPieces .complete)) () [] (some refusal) () := by
    rw [stream_eq, Gateway.feed_greeting]
    exact .done _ _
  obtain ⟨offered, answer, h⟩ := stream_honours Gateway.greeting_success Gateway.greeting_within hrun
  rw [Gateway.greetingPieces_flatten] at h
  have hfront := h.inOrder
  rw [chunksUpTo_greeting] at hfront
  refine ⟨offered, answer, h, ?_⟩
  generalize ([] : List (Program.Event Unit)) = t at h
  cases h.offering with
  | nil s => cases chunksUpTo_greeting.symm.trans (h.whole rfl).symm
  | taken answer more => cases (runs_done.mp answer).2.1
  | refused answer =>
    refine ⟨(runs_done.mp answer).2.1, ?_⟩
    obtain ⟨rfl, -⟩ := List.cons_prefix_cons.mp hfront
    rfl
  | unanswered answer => cases (runs_done.mp answer).2.1

end Client
end CompletionGateway
