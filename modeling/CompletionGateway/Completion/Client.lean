import CompletionGateway.Completion.Wire
import CompletionGateway.EventStream.Decoder

/-! The client of a completion backend that speaks the chat-completions protocol: what it sends, and what it
makes of the answer, which arrives in pieces of any size and may break off. -/
namespace CompletionGateway
open Json Json.Decode Numeric

/-- Lengths of time are nanoseconds. -/
structure ClientLimits where
  requestTimeout : Nat
  firstByteTimeout : Nat
  maxErrorBody : Nat
  deriving DecidableEq, Repr

structure Client where
  name : String
  baseUrl : String
  apiKey : String
  limits : ClientLimits
  deriving DecidableEq, Repr

/-- A request to the backend. -/
structure BackendRequest where
  method : String
  url : String
  authorization : Option String
  accept : String
  contentType : Option String
  body : String
  deriving DecidableEq, Repr

/-- How the body of an answer ends. -/
inductive BodyEnd where
  | complete
  | broken (reason : String)
  | timedOut (reason : String)
  deriving DecidableEq, Repr

/-- What comes of a request: no answer, or the head of one with the pieces of its body. -/
inductive Exchange where
  | unreachable (reason : String)
  | timedOut (reason : String)
  /-- No head has come within the time set for it. -/
  | noHead
  | answered (status : Nat) (pieces : List (List UInt8)) (ending : BodyEnd)
  deriving DecidableEq, Repr

namespace Client

/-- A client for a base address, whose slashes at the end do not matter. -/
def new (name base apiKey : String) (limits : ClientLimits) : Client :=
  ⟨name, String.ofList (base.toList.reverse.dropWhile (· == '/')).reverse, apiKey, limits⟩

/-! ### Requests -/

def turnJson (t : Turn) : Json := .object [("content", .string t.content), ("role", .string t.role.name)]

/-- The body of a request; the temperature is written as a double. -/
def body (r : CompletionRequest) (stream : Bool) : Json :=
  .object [("max_tokens", word32 r.params.maxTokens), ("messages", .array (r.turns.map turnJson)),
    ("model", .string r.params.model), ("stream", .bool stream),
    ("temperature", .real double (double.convert r.params.temperature))]

def authorization (c : Client) : Option String := if c.apiKey.isEmpty then none else some ("Bearer " ++ c.apiKey)

def post (c : Client) (r : CompletionRequest) (stream : Bool) : BackendRequest :=
  ⟨"POST", c.baseUrl ++ "/chat/completions", c.authorization, if stream then "text/event-stream" else "*/*",
    some "application/json", (body r stream).text⟩

def healthRequest (c : Client) : BackendRequest :=
  ⟨"GET", c.baseUrl ++ "/models", c.authorization, "*/*", none, ""⟩

/-! ### Answers -/

def isSuccess (status : Nat) : Bool := 200 ≤ status && status < 300

/-- The first `limit` bytes of a body as text, and the pieces that were not asked for. At least one piece is
asked for, and none after the one that fills the limit. -/
def readBounded (limit : Nat) : List (List UInt8) → List UInt8 → String × List (List UInt8)
  | [], collected => (Text.Utf8.decodeLossy collected, [])
  | piece :: pieces, collected =>
    let collected := collected ++ piece.take (limit - collected.length)
    if limit ≤ collected.length then (Text.Utf8.decodeLossy collected, pieces)
    else readBounded limit pieces collected

/-- The failure that an answer other than 2xx is. -/
def apiError (c : Client) (status : Nat) (pieces : List (List UInt8)) : ProviderError :=
  .api status (readBounded c.limits.maxErrorBody pieces []).1

/-- The decimal text of a length of time in the largest unit it fills. -/
def durationText (nanos : Nat) : String :=
  let (unit, name) :=
    if 1000000000 ≤ nanos then (1000000000, "s")
    else if 1000000 ≤ nanos then (1000000, "ms")
    else if 1000 ≤ nanos then (1000, "µs")
    else (1, "ns")
  let width := (digitChars unit).length - 1
  let places := (Time.padded width (nanos % unit)).reverse.dropWhile (· == '0')
  let fraction := if width = 0 || places.isEmpty then [] else '.' :: places.reverse
  String.ofList (digitChars (nanos / unit) ++ fraction) ++ name

def noHeadReason (c : Client) : String := "no response headers within " ++ durationText c.limits.firstByteTimeout

/-- The reasons for which there is no answer at all. -/
def transportError (c : Client) : Exchange → Option ProviderError
  | .unreachable reason => some (.network reason)
  | .timedOut reason => some (.timeout reason)
  | .noHead => some (.timeout c.noHeadReason)
  | .answered .. => none

/-- A choice of a whole answer: its content and why it ended. -/
def choiceOfTree? : Decoder (Option String × Option String) := fun t => do
  let fs ← fields ["message", "finish_reason"] t
  let content ← required (fun t => do
    let ms ← fields ["content"] t
    maybe text ms 0) fs 0
  some (content, ← maybe text fs 1)

/-- The parts of a whole answer: identifier, model, choices and usage. -/
def answerOfTree? :
    Decoder (String × String × List (Option String × Option String) × Option Usage) := fun t => do
  let fs ← fields ["id", "model", "choices", "usage"] t
  some (← withDefault text "" fs 0, ← withDefault text "" fs 1,
    ← withDefault (listOf choiceOfTree?) [] fs 2, ← maybe Usage.ofTree? fs 3)

/-- The whole answer in the body of a 2xx response. -/
def readAnswer (bytes : List UInt8) : Except ProviderError CompletionResponse :=
  match decodeBytes answerOfTree? bytes with
  | none => .error (.decode "error decoding response body")
  | some (_, _, [], _) => .error .emptyResponse
  | some (id, model, (content, finish) :: _, usage) =>
    .ok ⟨id, content.getD "", model, usage, finish⟩

/-- What a single-shot exchange comes to. -/
def conclude (c : Client) (x : Exchange) : Except ProviderError CompletionResponse :=
  match x with
  | .answered status pieces ending =>
    if isSuccess status then
      match ending with
      | .complete => readAnswer pieces.flatten
      | .broken reason => .error (.decode reason)
      | .timedOut reason => .error (.timeout reason)
    else .error (c.apiError status pieces)
  | x => .error ((c.transportError x).getD .emptyResponse)

/-- Whether the backend answers its health check well. -/
def healthy (c : Client) (x : Exchange) : Except ProviderError Bool :=
  match x with
  | .answered status _ _ => .ok (isSuccess status)
  | x => .error ((c.transportError x).getD .emptyResponse)

/-! ### Streams -/

/-- A choice of a streamed piece: its content, if any, and why the answer ended. -/
def streamChoiceOfTree? : Decoder (Option String × Option String) := fun t => do
  let fs ← fields ["delta", "finish_reason"] t
  let content ← withDefault (fun t => do
    let ds ← fields ["content"] t
    maybe text ds 0) none fs 0
  some (content, ← maybe text fs 1)

/-- The chunk in the text of a payload. There is none if the payload is malformed or offers no choice. -/
def chunkOfPayload? (payload : String) : Option Chunk := do
  let t ← Tree.ofText payload
  let fs ← fields ["id", "model", "choices"] t
  let id ← withDefault text "" fs 0
  let model ← maybe text fs 1
  let choices ← withDefault (listOf streamChoiceOfTree?) [] fs 2
  match choices with
  | (content, finish) :: _ => some ⟨id, content.getD "", finish, model.filter fun m => !m.isEmpty⟩
  | [] => none

/-- The chunks of lines up to the end mark, and whether it is among them. -/
def chunksOfLines : List EventStream.Line → List Chunk × Bool
  | [] => ([], false)
  | .done :: _ => ([], true)
  | .data payload :: lines =>
    let r := chunksOfLines lines
    ((chunkOfPayload? payload).toList ++ r.1, r.2)

/-- Chunks in front of a feed. -/
def prependChunks (chunks : List Chunk) (f : Feed) : Feed := ⟨chunks ++ f.chunks, f.ending⟩

/-- The feed of a body that arrives in pieces. It ends well at the end mark, or without it at the end of the
body; pieces behind the end mark are not asked for. -/
def readFeed (d : EventStream.Decoder) (ending : BodyEnd) : List (List UInt8) → Feed
  | [] =>
    match ending with
    | .complete => ⟨(chunksOfLines d.finish.1.toList).1, .finished⟩
    | .broken reason => ⟨[], .failed (.streamInterrupted reason)⟩
    | .timedOut reason => ⟨[], .failed (.streamInterrupted reason)⟩
  | piece :: pieces =>
    match d.push piece with
    | (.error e, _) => ⟨[], .failed e⟩
    | (.ok lines, d) =>
      let r := chunksOfLines lines
      if r.2 then ⟨r.1, .finished⟩ else prependChunks r.1 (readFeed d ending pieces)

/-- What a streaming exchange comes to. -/
def feed (c : Client) (x : Exchange) : Feed :=
  match x with
  | .answered status pieces ending =>
    if isSuccess status then readFeed (.fresh EventStream.Decoder.defaultLimit) ending pieces
    else ⟨[], .failed (c.apiError status pieces)⟩
  | x => ⟨[], .failed ((c.transportError x).getD .emptyResponse)⟩

end Client
end CompletionGateway
