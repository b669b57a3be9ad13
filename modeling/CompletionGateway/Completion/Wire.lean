import CompletionGateway.Completion.Basic
import CompletionGateway.Conversation.Wire

/-! Requests, answers and their pieces in JSON. -/
namespace CompletionGateway
open Json Json.Decode Numeric

namespace CompletionParams

def toJson (p : CompletionParams) : Json :=
  .object [("model", .string p.model), ("temperature", .real single p.temperature),
    ("max_tokens", word32 p.maxTokens)]

def ofTree? : Decoder CompletionParams := fun t => do
  let fs ← fields ["model", "temperature", "max_tokens"] t
  some ⟨← required text fs 0, ← required (real single) fs 1, ← required count fs 2⟩

end CompletionParams

namespace CompletionRequest

def toJson (r : CompletionRequest) : Json :=
  .object [("turns", .array (r.turns.map Turn.toJson)), ("params", r.params.toJson)]

def ofTree? : Decoder CompletionRequest := fun t => do
  let fs ← fields ["turns", "params"] t
  some ⟨← required (listOf Turn.ofTree?) fs 0, ← required CompletionParams.ofTree? fs 1⟩

end CompletionRequest

namespace Usage

def toJson (u : Usage) : Json :=
  .object [("prompt_tokens", word32 u.promptTokens), ("completion_tokens", word32 u.completionTokens),
    ("total_tokens", word32 u.totalTokens)]

def ofTree? : Decoder Usage := fun t => do
  let fs ← fields ["prompt_tokens", "completion_tokens", "total_tokens"] t
  some ⟨← required count fs 0, ← required count fs 1, ← required count fs 2⟩

end Usage

namespace CompletionResponse

/-- Unlike elsewhere, an absent field is written as `null`. -/
def toJson (r : CompletionResponse) : Json :=
  .object [("id", .string r.id), ("content", .string r.content), ("model", .string r.model),
    ("usage", ofOption Usage.toJson r.usage), ("finish_reason", ofOption .string r.finishReason)]

def ofTree? : Decoder CompletionResponse := fun t => do
  let fs ← fields ["id", "content", "model", "usage", "finish_reason"] t
  some ⟨← required text fs 0, ← required text fs 1, ← required text fs 2, ← maybe Usage.ofTree? fs 3,
    ← maybe text fs 4⟩

end CompletionResponse

namespace Chunk

def toJson (c : Chunk) : Json :=
  .object ([("id", .string c.id), ("delta", .string c.delta)] ++
    field? "finish_reason" .string c.finishReason ++ field? "model" .string c.model)

/-- A chunk without a delta has an empty one. -/
def ofTree? : Decoder Chunk := fun t => do
  let fs ← fields ["id", "delta", "finish_reason", "model"] t
  some ⟨← required text fs 0, ← withDefault text "" fs 1, ← maybe text fs 2, ← maybe text fs 3⟩

end Chunk

namespace StreamFrame

def toJson (f : StreamFrame) : Json :=
  .object ([("id", .string f.id), ("conversation_id", f.conversation.toJson), ("delta", .string f.delta)] ++
    field? "finish_reason" .string f.finishReason ++ field? "model" .string f.model)

def ofTree? : Decoder StreamFrame := fun t => do
  let fs ← fields ["id", "conversation_id", "delta", "finish_reason", "model"] t
  some ⟨← required text fs 0, ← required ConversationId.ofTree? fs 1, ← required text fs 2,
    ← maybe text fs 3, ← maybe text fs 4⟩

end StreamFrame

namespace PipelineRequest

def toJson (r : PipelineRequest) : Json :=
  .object ([("prompt", .string r.prompt)] ++ field? "conversation_id" ConversationId.toJson r.conversation ++
    [("stream", .bool r.stream)] ++ field? "model" .string r.model ++
    field? "temperature" (.real single) r.temperature ++ field? "max_tokens" word32 r.maxTokens)

def ofTree? : Decoder PipelineRequest := fun t => do
  let fs ← fields ["prompt", "conversation_id", "stream", "model", "temperature", "max_tokens"] t
  some ⟨← required text fs 0, ← maybe ConversationId.ofTree? fs 1, ← withDefault bool false fs 2,
    ← maybe text fs 3, ← maybe (real single) fs 4, ← maybe count fs 5⟩

end PipelineRequest

namespace InferenceResponse

def toJson (r : InferenceResponse) : Json :=
  .object ([("id", r.id.toJson), ("conversation_id", r.conversation.toJson), ("content", .string r.content),
    ("model", .string r.model)] ++ field? "token_count" word32 r.tokenCount ++
    [("latency_ms", .real double r.latency), ("cached", .bool r.cached)])

def ofTree? : Decoder InferenceResponse := fun t => do
  let fs ← fields ["id", "conversation_id", "content", "model", "token_count", "latency_ms", "cached"] t
  some ⟨← required Uuid.ofTree? fs 0, ← required ConversationId.ofTree? fs 1, ← required text fs 2,
    ← required text fs 3, ← maybe count fs 4, ← required (real double) fs 5, ← required bool fs 6⟩

end InferenceResponse
end CompletionGateway
