import CompletionGateway.Gateway.Collaborators

/-! Runs without a backend: what lies outside follows a script, store operations fail when they are told to, and
what has been asked for is noted. Identifiers and times come from counters, so a run can be repeated. -/
namespace CompletionGateway.Gateway

/-- What the outside does. -/
structure Script where
  answer : CompletionRequest → Except ProviderError CompletionResponse
  feed : CompletionRequest → Feed
  /-- The refusal of a frame after so many were taken. -/
  refusal : Nat → Option ProviderError
  /-- The client of an open response leaves when it has read so many events. -/
  patience : Option Nat

namespace Script

def lastContent (r : CompletionRequest) : String := (r.turns.getLast?.map (·.content)).getD ""

/-- The identifier of whatever is answered without instructions. -/
def answerId : String := "up-1"

/-- The answer that repeats the last turn. -/
def echo (r : CompletionRequest) : CompletionResponse :=
  ⟨answerId, "echo:" ++ lastContent r, r.params.model, none, none⟩

/-- The same answer in two chunks. -/
def echoChunks (r : CompletionRequest) : List Chunk :=
  [⟨answerId, "echo:", none, none⟩, ⟨answerId, lastContent r, some "stop", none⟩]

end Script

/-- A script, and what is noted while it is followed. -/
structure Rehearsal where
  script : Script
  /-- The answers of the window store still to come, if it follows the script too. -/
  outcomes : Option (List (Except AdmissionError Admission.Outcome))
  /-- The names of the store operations that are to fail. -/
  failing : List String
  sent : Option CompletionRequest
  calls : Nat
  /-- The frames taken, the last one first. -/
  frames : List StreamFrame
  created : List ConversationId
  uuids : Nat
  ticks : Nat

namespace Rehearsal

abbrev State := Collaborators × Rehearsal

def start (script : Script) (outcomes : Option (List (Except AdmissionError Admission.Outcome))) : Rehearsal :=
  ⟨script, outcomes, [], none, 0, [], [], 0, 0⟩

/-- Go on with another script. Only what outlives a request stays on the notes. -/
def follow (w : Rehearsal) (script : Script) : Rehearsal :=
  { w with script := script, sent := none, calls := 0, frames := [] }

def note (w : Rehearsal) (r : CompletionRequest) : Rehearsal := { w with sent := some r, calls := w.calls + 1 }

def uuidAt (n : Nat) : Uuid := ⟨BitVec.ofNat 128 (0xd6e1a7c35b0f4e2ab480000000000000 + n)⟩

/-- The second after the last one, counted from the start of May 2024. -/
def timeAt (n : Nat) : Time := ⟨1714521600 + n, 0⟩

def outside : Collaborators.Outside Rehearsal where
  complete r w := (w.script.answer r, w.note r)
  openFeed r w := (w.script.feed r, w.note r)
  offer f w :=
    match w.script.refusal w.frames.length with
    | some e => (.error e, w)
    | none => (.ok (), { w with frames := f :: w.frames })
  freshUuid w := (uuidAt w.uuids, { w with uuids := w.uuids + 1 })
  wallClock w := (timeAt w.ticks, { w with ticks := w.ticks + 1 })
  elapsed w := (Numeric.double.ofDecimal false 15 (-1), w)

def base : Program.Handler State := Collaborators.handle outside

/-- A store operation, which is refused if it is to fail. -/
def guarded {α : Type} (operation : String) (s : State) (r : Except StoreError α × State) :
    Except StoreError α × State :=
  if s.2.failing.contains operation then (.error (.queryFailed (operation ++ " refused")), s) else r

def nextOutcome : List (Except AdmissionError Admission.Outcome) →
    Except AdmissionError Admission.Outcome × List (Except AdmissionError Admission.Outcome)
  | [] => (.error ⟨"no more outcomes"⟩, [])
  | o :: os => (o, os)

/-- Whether the client of the open response has had enough. -/
def hasLeft (s : State) : Bool :=
  match s.2.script.patience with
  | some n => n ≤ s.1.emitter.written.length
  | none => false

def handle : Program.Handler State
  | .findConversation id, s => guarded "get" s (base (.findConversation id) s)
  | .createConversation c, s =>
    let r := guarded "create" s (base (.createConversation c) s)
    (r.1, if r.1.isOk then (r.2.1, { r.2.2 with created := r.2.2.created ++ [c.id] }) else r.2)
  | .appendMessage m, s =>
    guarded (if m.role = .user then "append_user" else "append_assistant") s (base (.appendMessage m) s)
  | .listMessages id, s => guarded "messages" s (base (.listMessages id) s)
  | .listConversations p n, s => guarded "list" s (base (.listConversations p n) s)
  | .pingStore, s => guarded "ping" s (base .pingStore s)
  | .hit key p, s =>
    match s.2.outcomes with
    | some os => let r := nextOutcome os; (r.1, (s.1, { s.2 with outcomes := some r.2 }))
    | none => base (.hit key p) s
  | .emit e, s =>
    base (.emit e) (if hasLeft s then ({ s.1 with emitter := s.1.emitter.hangUp }, s.2) else s)
  | c, s => base c s

end Rehearsal
end CompletionGateway.Gateway
