import CompletionGateway.Admission.Controller
import CompletionGateway.Completion.Basic
import CompletionGateway.EventStream.Emitter

/-! Requests as programs over their collaborators. A program is a tree: at each node it calls a collaborator
and goes on with the answer, until it returns a value or can never go on. What the collaborators do is not part
of it; a handler gives them their behaviour, and a run of the program under a handler threads the handler's state. -/
namespace CompletionGateway

/-- A call of a collaborator. -/
inductive Call where
  | findConversation (id : ConversationId)
  | createConversation (c : Conversation)
  | appendMessage (m : Message)
  | listMessages (id : ConversationId)
  | listConversations (owner : Principal) (limit : Nat)
  | pingStore
  | readCache (key : String)
  | writeCache (key : String) (value : List UInt8) (ttl : Nat)
  | pingCache
  /-- Ask the backend for a whole answer. -/
  | complete (r : CompletionRequest)
  /-- Ask the backend for a streamed answer. -/
  | openFeed (r : CompletionRequest)
  /-- Hand a frame to the consumer of a stream. -/
  | offer (f : StreamFrame)
  /-- Write an event to the client of an open response. -/
  | emit (e : EventStream.Event)
  /-- Record a request in the window of an identity. -/
  | hit (key : String) (policy : Admission.Policy)
  /-- Draw the identifier of a conversation that is to begin. -/
  | freshConversation
  | freshUuid
  | wallClock
  /-- Milliseconds since the request began. -/
  | elapsed

/-- What a call is answered with. -/
abbrev Call.Answer : Call → Type
  | .findConversation _ => Except StoreError (Option Conversation)
  | .createConversation _ => Except StoreError Unit
  | .appendMessage _ => Except StoreError Unit
  | .listMessages _ => Except StoreError (List Message)
  | .listConversations _ _ => Except StoreError (List Conversation)
  | .pingStore => Except StoreError Unit
  | .readCache _ => Except CacheError (Option (List UInt8))
  | .writeCache _ _ _ => Except CacheError Unit
  | .pingCache => Except CacheError Unit
  | .complete _ => Except ProviderError CompletionResponse
  | .openFeed _ => Feed
  | .offer _ => Except ProviderError Unit
  | .emit _ => Except ProviderError Unit
  | .hit _ _ => Except AdmissionError Admission.Outcome
  | .freshConversation => ConversationId
  | .freshUuid => Uuid
  | .wallClock => Time
  | .elapsed => Numeric.Binary

inductive Program (α : Type) : Type where
  | done (a : α)
  /-- Waits for something that never comes. -/
  | stuck
  | call (c : Call) (next : c.Answer → Program α)

namespace Program
variable {α β σ : Type}

def bind : Program α → (α → Program β) → Program β
  | .done a, f => f a
  | .stuck, _ => .stuck
  | .call c next, f => .call c fun a => (next a).bind f

instance : Monad Program where
  pure := .done
  bind := bind

/-- One call, returning its answer. -/
def perform (c : Call) : Program c.Answer := .call c .done

/-- The collaborators, over a state of their own. -/
abbrev Handler (σ : Type) := (c : Call) → σ → c.Answer × σ

/-- Run a program to its end; there is no result if it gets stuck. -/
def run (h : Handler σ) : Program α → σ → Option α × σ
  | .done a, s => (some a, s)
  | .stuck, s => (none, s)
  | .call c next, s => let r := h c s; (next r.1).run h r.2

end Program

/-- A program that may fail with a reason for its caller. -/
abbrev Attempt (α : Type) := Program (Except PipelineError α)

namespace Attempt
variable {α β : Type}

/-- Go on with the value of an attempt that succeeded. -/
def andThen (p : Attempt α) (f : α → Attempt β) : Attempt β :=
  Program.bind p fun
    | .ok a => f a
    | .error e => .done (.error e)

/-- A call of the store, whose failure is the attempt's. -/
def ofStore (p : Program (Except StoreError α)) : Attempt α :=
  Program.bind p fun
    | .ok a => .done (.ok a)
    | .error e => .done (.error (.store e))

end Attempt
end CompletionGateway
