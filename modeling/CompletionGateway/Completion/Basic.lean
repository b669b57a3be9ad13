import CompletionGateway.Conversation.Basic
import CompletionGateway.Failure

/-! What is asked of a completion backend and what it answers, whole or in chunks. -/
namespace CompletionGateway

structure CompletionParams where
  model : String
  temperature : Numeric.Binary
  maxTokens : UInt32
  deriving DecidableEq, Repr

structure CompletionRequest where
  turns : List Turn
  params : CompletionParams
  deriving DecidableEq, Repr

structure Usage where
  promptTokens : UInt32
  completionTokens : UInt32
  totalTokens : UInt32
  deriving DecidableEq, Repr

structure CompletionResponse where
  id : String
  content : String
  /-- The model that answered, which need not be the one asked for. -/
  model : String
  usage : Option Usage
  finishReason : Option String
  deriving DecidableEq, Repr

/-- The tokens a response was charged with, zero if it does not say. -/
def CompletionResponse.totalTokens (r : CompletionResponse) : UInt32 :=
  match r.usage with
  | some u => u.totalTokens
  | none => 0

/-- A piece of a streamed answer. -/
structure Chunk where
  id : String
  delta : String
  finishReason : Option String
  model : Option String
  deriving DecidableEq, Repr

/-- A piece of a streamed answer as the caller is shown it. -/
structure StreamFrame where
  id : String
  conversation : ConversationId
  delta : String
  finishReason : Option String
  model : Option String
  deriving DecidableEq, Repr

def Chunk.frame (c : Chunk) (conversation : ConversationId) : StreamFrame :=
  ⟨c.id, conversation, c.delta, c.finishReason, c.model⟩

/-- How a streamed answer ends, if it does. -/
inductive FeedEnd where
  | finished
  | failed (e : ProviderError)
  | silent
  deriving DecidableEq, Repr

/-- A streamed answer: the chunks in order of arrival and how it ends. -/
structure Feed where
  chunks : List Chunk
  ending : FeedEnd
  deriving DecidableEq, Repr

/-- A request of a caller. -/
structure PipelineRequest where
  prompt : String
  conversation : Option ConversationId
  stream : Bool
  model : Option String
  temperature : Option Numeric.Binary
  maxTokens : Option UInt32
  deriving DecidableEq, Repr

/-- The whole answer to a request; also what the cache holds. -/
structure InferenceResponse where
  id : Uuid
  conversation : ConversationId
  content : String
  model : String
  tokenCount : Option UInt32
  latency : Numeric.Binary
  cached : Bool
  deriving DecidableEq, Repr

end CompletionGateway
