import CompletionGateway.Cache.ResponseCache
import CompletionGateway.Pipeline.Context
import CompletionGateway.Pipeline.Prompt

/-! One run per request: check the prompt, find or start the conversation, gather the turns, ask the cache
(for whole answers only), ask the backend, and keep the exchange on record. Failures of the cache and of the
record are not the caller's; a conversation of somebody else is refused before the backend is asked. -/
namespace CompletionGateway
open Program

/-- What all runs have in common. Times are nanoseconds. -/
structure Orchestrator where
  injector : Injector
  historyLimit : Nat
  maxPromptChars : Nat
  defaults : CompletionParams
  cacheTtl : Nat

namespace Orchestrator

/-- Conversations in a listing, at most. -/
def listLimit : Nat := 50

/-- The longest prompt unless another limit is set. -/
def defaultMaxPromptChars : Nat := 32000

def validate (o : Orchestrator) (r : PipelineRequest) : Except PipelineError Unit :=
  Prompt.check o.maxPromptChars r.prompt

/-- What the request leaves open is taken from the defaults; an empty model name leaves the model open. -/
def params (o : Orchestrator) (r : PipelineRequest) : CompletionParams :=
  ⟨(r.model.filter fun m => !m.isEmpty).getD o.defaults.model,
    r.temperature.getD o.defaults.temperature, r.maxTokens.getD o.defaults.maxTokens⟩

/-- What the answer to a request depends on. -/
def inquiry (o : Orchestrator) (p : Principal) (r : PipelineRequest) : Cache.Inquiry :=
  let params := o.params r
  ⟨p.name, params.model, r.prompt, params.temperature, params.maxTokens⟩

/-- A new conversation of the caller. -/
def startConversation (p : Principal) : Attempt ConversationId :=
  Program.bind (perform .freshConversation) fun id =>
  Program.bind (perform .wallClock) fun now =>
  Attempt.andThen (Attempt.ofStore (perform (.createConversation (.start id now p)))) fun _ =>
  .done (.ok id)

/-- The caller's conversation that was asked for, or a new one if none was or it is not on record. -/
def resolve (p : Principal) : Option ConversationId → Attempt ConversationId
  | none => startConversation p
  | some id =>
    Attempt.andThen (Attempt.ofStore (perform (.findConversation id))) fun
      | some c => if c.isOwnedBy p then .done (.ok c.id) else .done (.error (.conversationForbidden id.text))
      | none => startConversation p

/-- Append prompt and answer to the record. A failure of either is not reported, and does not keep the other
from being tried. -/
def persist (id : ConversationId) (prompt content model : String) (tokens : UInt32)
    (latency : Numeric.Binary) : Program Unit :=
  Program.bind (perform .freshUuid) fun u =>
  Program.bind (perform .wallClock) fun t =>
  Program.bind (perform (.appendMessage (.ofUser u t id prompt))) fun _ =>
  Program.bind (perform .freshUuid) fun u =>
  Program.bind (perform .wallClock) fun t =>
  Program.bind (perform (.appendMessage (.ofAssistant u t id content model tokens latency))) fun _ =>
  .done ()

/-- The cached answer for the conversation at hand. -/
def serveHit (id : ConversationId) (hit : InferenceResponse) : Attempt InferenceResponse :=
  Program.bind (perform .elapsed) fun latency =>
  .done (.ok ⟨hit.id, id, hit.content, hit.model, hit.tokenCount, latency, true⟩)

/-- Keep an answer of the backend in cache and record, and return it. -/
def conclude (o : Orchestrator) (f : Cache.Fingerprint) (id : ConversationId) (prompt : String)
    (c : CompletionResponse) : Attempt InferenceResponse :=
  Program.bind (perform .freshUuid) fun u =>
  Program.bind (perform .elapsed) fun latency =>
  let response : InferenceResponse := ⟨u, id, c.content, c.model, some c.totalTokens, latency, false⟩
  Program.bind (Cache.store o.cacheTtl f response.toJson) fun _ =>
  Program.bind (persist id prompt c.content c.model c.totalTokens latency) fun _ =>
  .done (.ok response)

/-- A whole answer, from the cache or the backend. -/
def complete (o : Orchestrator) (p : Principal) (r : PipelineRequest) : Attempt InferenceResponse :=
  Attempt.andThen (.done (o.validate r)) fun _ =>
  Attempt.andThen (resolve p r.conversation) fun id =>
  Attempt.andThen (Attempt.ofStore (Context.history o.historyLimit id r.prompt)) fun turns =>
  let fingerprint := (o.inquiry p r).fingerprint
  Program.bind (Cache.lookup (Json.decodeBytes InferenceResponse.ofTree?) fingerprint) fun
    | some hit => serveHit id hit
    | none =>
      Program.bind (perform (.complete ⟨o.injector.inject turns, o.params r⟩)) fun
        | .ok c => o.conclude fingerprint id r.prompt c
        | .error e => .done (.error (.backend e))

/-- What consumes the frames of a stream. A refusal ends the stream. -/
abbrev FrameSink := StreamFrame → Program (Except ProviderError Unit)

/-- Hand chunks on as frames until one is refused. The result is the text of all chunks, or the refusal. -/
def relay (sink : FrameSink) (id : ConversationId) : List Chunk → String → Program (Except ProviderError String)
  | [], text => .done (.ok text)
  | c :: cs, text =>
    Program.bind (sink (c.frame id)) fun
      | .ok () => relay sink id cs (text ++ c.delta)
      | .error e => .done (.error e)

/-- Hand on a whole feed. It has a text if no frame was refused and the feed came to a good end. -/
def relayFeed (sink : FrameSink) (id : ConversationId) (feed : Feed) : Program (Except ProviderError String) :=
  Program.bind (relay sink id feed.chunks "") fun
    | .error e => .done (.error e)
    | .ok text =>
      match feed.ending with
      | .finished => .done (.ok text)
      | .failed e => .done (.error e)
      | .silent => .stuck

/-- A failed stream as its caller sees it: a consumer that stopped it cancelled the request. -/
def streamFailure : ProviderError → PipelineError
  | .aborted _ => .cancelled
  | e => .backend e

/-- A streamed answer, one frame for each chunk. The exchange goes on record when the stream has come to a good
end, under the default model and without token count or latency. -/
def stream (o : Orchestrator) (sink : FrameSink) (p : Principal) (r : PipelineRequest) : Attempt ConversationId :=
  Attempt.andThen (.done (o.validate r)) fun _ =>
  Attempt.andThen (resolve p r.conversation) fun id =>
  Attempt.andThen (Attempt.ofStore (Context.build o.injector o.historyLimit id r.prompt)) fun turns =>
  Program.bind (perform (.openFeed ⟨turns, o.params r⟩)) fun feed =>
  Program.bind (relayFeed sink id feed) fun
    | .error e => .done (.error (streamFailure e))
    | .ok text =>
      Program.bind (persist id r.prompt text o.defaults.model 0 default) fun _ =>
      .done (.ok id)

/-- The caller's conversations, the most recently updated first. -/
def listConversations (p : Principal) : Attempt (List Conversation) :=
  Attempt.ofStore (perform (.listConversations p listLimit))

/-- The messages of a conversation of the caller, oldest first. -/
def listMessages (p : Principal) (id : ConversationId) : Attempt (List Message) :=
  Attempt.andThen (Attempt.ofStore (perform (.findConversation id))) fun
    | none => .done (.error (.conversationNotFound id.text))
    | some c =>
      if c.isOwnedBy p then Attempt.ofStore (perform (.listMessages id))
      else .done (.error (.conversationForbidden id.text))

end Orchestrator
end CompletionGateway
