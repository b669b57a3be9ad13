import CompletionGateway.Completion.Client
import CompletionGateway.Pipeline.Program

/-! A client that hands chunks to a consumer while it reads. Each piece of the body is decoded as it arrives, and what its
lines carry goes to the consumer before the next piece is asked for. A refusal ends the reading, and so does the end
mark. -/
namespace CompletionGateway
open Program EventStream

/-- What consumes the chunks of a streamed answer. A refusal ends the stream. -/
abbrev ChunkSink := Chunk → Program (Except ProviderError Unit)

/-- Hand items to a consumer one by one until it refuses one. -/
def handAll {α : Type} (sink : α → Program (Except ProviderError Unit)) : List α → Program (Except ProviderError Unit)
  | [] => .done (.ok ())
  | a :: as =>
    Program.bind (sink a) fun
      | .ok () => handAll sink as
      | .error e => .done (.error e)

/-- Hand on a feed that is known in advance. -/
def Feed.deliver (feed : Feed) (sink : ChunkSink) : Program (Except ProviderError Unit) :=
  Program.bind (handAll sink feed.chunks) fun
    | .error e => .done (.error e)
    | .ok () =>
      match feed.ending with
      | .finished => .done (.ok ())
      | .failed e => .done (.error e)
      | .silent => .stuck

namespace Client

/-- Hand on the chunk of a payload, if there is one. -/
def forward (sink : ChunkSink) (payload : String) : Program (Except ProviderError Unit) :=
  match chunkOfPayload? payload with
  | some c => sink c
  | none => .done (.ok ())

/-- Hand on what lines carry up to the end mark. The result says whether that has come. -/
def forwardLines (sink : ChunkSink) : List Line → Program (Except ProviderError Bool)
  | [] => .done (.ok false)
  | .done :: _ => .done (.ok true)
  | .data payload :: lines =>
    Program.bind (forward sink payload) fun
      | .ok () => forwardLines sink lines
      | .error e => .done (.error e)

/-- Hand on a body that arrives in pieces. -/
def forwardBody (sink : ChunkSink) (d : Decoder) (ending : BodyEnd) :
    List (List UInt8) → Program (Except ProviderError Unit)
  | [] =>
    match ending with
    | .complete =>
      match d.finish.1 with
      | some (.data payload) => forward sink payload
      | some .done => .done (.ok ())
      | none => .done (.ok ())
    | .broken reason => .done (.error (.streamInterrupted reason))
    | .timedOut reason => .done (.error (.streamInterrupted reason))
  | piece :: pieces =>
    match d.push piece with
    | (.error e, _) => .done (.error e)
    | (.ok lines, d) =>
      Program.bind (forwardLines sink lines) fun
        | .ok true => .done (.ok ())
        | .ok false => forwardBody sink d ending pieces
        | .error e => .done (.error e)

/-- A streaming exchange whose chunks go to a consumer. -/
def stream (c : Client) (sink : ChunkSink) (x : Exchange) : Program (Except ProviderError Unit) :=
  match x with
  | .answered status pieces ending =>
    if isSuccess status then forwardBody sink (.fresh Decoder.defaultLimit) ending pieces
    else .done (.error (c.apiError status pieces))
  | x => .done (.error ((c.transportError x).getD .emptyResponse))

end Client
end CompletionGateway
