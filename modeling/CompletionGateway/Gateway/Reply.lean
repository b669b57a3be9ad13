import CompletionGateway.Http.Message
import CompletionGateway.Pipeline.Orchestrator

/-! What the gateway answers: a head with a whole body, or with a body that is written event by event. -/
namespace CompletionGateway.Gateway
open Program

inductive Body where
  | whole (text : String)
  /-- A body of events, with the program that writes them. -/
  | events (writer : Program Unit)

structure Reply where
  head : Http.Head
  body : Body

namespace Reply

def empty (status : Nat) : Reply := ⟨⟨status, []⟩, .whole ""⟩

def text (status : Nat) (s : String) : Reply :=
  ⟨⟨status, [("content-type", "text/plain; charset=utf-8")]⟩, .whole s⟩

def json (status : Nat) (j : Json) : Reply :=
  ⟨⟨status, [("content-type", "application/json")]⟩, .whole j.text⟩

/-- The envelope of every failure: what is wrong, and the status once more. -/
def failure (status : Nat) (message : String) : Reply :=
  json status (.object [("error", .string message), ("code", .nat status)])

def ofError (e : PipelineError) : Reply := failure e.status e.clientMessage

def unauthorized (message : String) : Reply := failure 401 message
def badRequest (message : String) : Reply := failure 400 message

/-- The head of a stream of events, which no cache and no proxy is to hold back. -/
def eventHead : Http.Head :=
  ⟨200, [("content-type", "text/event-stream"), ("cache-control", "no-cache"), ("connection", "keep-alive"),
    ("x-accel-buffering", "no")]⟩

def set (r : Reply) (name value : String) : Reply := ⟨r.head.set name value, r.body⟩
def setDefault (r : Reply) (name value : String) : Reply := ⟨r.head.setDefault name value, r.body⟩

/-- The reply to a request that asked for the head only. -/
def headOnly (r : Reply) : Reply := ⟨r.head, .whole ""⟩

end Reply
end CompletionGateway.Gateway
