import CompletionGateway.Completion.Wire
import CompletionGateway.EventStream.Decoder

/-! Writing a body of server-sent events. An event is an optional name line, a data line and a blank line;
what is written after the client has gone is refused. -/
namespace CompletionGateway.EventStream

structure Event where
  name : Option String
  data : String
  deriving DecidableEq, Repr

namespace Event

def chars (e : Event) : List Char :=
  (match e.name with
    | some n => "event: ".toList ++ n.toList ++ ['\n']
    | none => []) ++ "data: ".toList ++ e.data.toList ++ ['\n', '\n']

/-- The event of a JSON payload. -/
def ofJson (name : Option String) (payload : Json) : Event := ⟨name, payload.text⟩

def ofFrame (f : StreamFrame) : Event := ofJson none f.toJson

/-- The event that tells the client of a failure. -/
def ofFailure (message : String) : Event := ofJson (some "error") (.object [("error", .string message)])

/-- The event that ends every stream. -/
def ending : Event := ⟨none, endMark⟩

end Event

/-- An open response: the events written, the last one first, and whether the client still listens. -/
structure Emitter where
  written : List Event
  connected : Bool
  deriving DecidableEq, Repr

namespace Emitter

def opened : Emitter := ⟨[], true⟩

def gone : ProviderError := .aborted "client disconnected"

def write (m : Emitter) (e : Event) : Except ProviderError Unit × Emitter :=
  if m.connected then (.ok (), ⟨e :: m.written, true⟩) else (.error gone, m)

def hangUp (m : Emitter) : Emitter := ⟨m.written, false⟩

/-- The events in the order of writing. -/
def events (m : Emitter) : List Event := m.written.reverse

/-- The body of the response. -/
def body (m : Emitter) : String := String.ofList (m.events.flatMap Event.chars)

end Emitter
end CompletionGateway.EventStream
