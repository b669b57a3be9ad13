import CompletionGateway.Admission.LocalWindow
import CompletionGateway.Cache.KeyValue
import CompletionGateway.Pipeline.Program
import CompletionGateway.Store.Conversations

/-! Collaborators that the service holds itself, and the handler they make. What lies outside (backend, consumers of
streams, clocks and chance) is a handler of its own. -/
namespace CompletionGateway.Gateway

/-- Store, cache, windows and the response being written. The time is that of a clock that does not go
back, in nanoseconds. -/
structure Collaborators where
  store : Store.Conversations
  cache : Cache.KeyValue
  windows : Admission.LocalWindow
  emitter : EventStream.Emitter
  now : Nat

namespace Collaborators

def fresh (store : Store.Conversations) (cache : Cache.KeyValue) : Collaborators :=
  ⟨store, cache, .empty, .opened, 0⟩

def advance (c : Collaborators) (nanos : Nat) : Collaborators := { c with now := c.now + nanos }

/-- The answers of what the service does not hold itself. -/
structure Outside (σ : Type) where
  complete : CompletionRequest → σ → Except ProviderError CompletionResponse × σ
  openFeed : CompletionRequest → σ → Feed × σ
  offer : StreamFrame → σ → Except ProviderError Unit × σ
  freshUuid : σ → Uuid × σ
  wallClock : σ → Time × σ
  elapsed : σ → Numeric.Binary × σ

/-- Each call goes to the collaborator it is for. -/
def handle {σ : Type} (outside : Outside σ) : Program.Handler (Collaborators × σ)
  | .findConversation id, (c, s) => (c.store.find id, (c, s))
  | .createConversation v, (c, s) => let r := c.store.create v; (r.1, ({ c with store := r.2 }, s))
  | .appendMessage m, (c, s) => let r := c.store.append m; (r.1, ({ c with store := r.2 }, s))
  | .listMessages id, (c, s) => (c.store.messagesOf id, (c, s))
  | .listConversations owner limit, (c, s) => (c.store.ownedBy owner limit, (c, s))
  | .pingStore, (c, s) => (c.store.ping, (c, s))
  | .readCache key, (c, s) => let r := c.cache.get c.now key; (r.1, ({ c with cache := r.2 }, s))
  | .writeCache key value ttl, (c, s) =>
    let r := c.cache.set c.now key value ttl; (r.1, ({ c with cache := r.2 }, s))
  | .pingCache, (c, s) => (c.cache.ping, (c, s))
  | .complete r, (c, s) => let a := outside.complete r s; (a.1, (c, a.2))
  | .openFeed r, (c, s) => let a := outside.openFeed r s; (a.1, (c, a.2))
  | .offer f, (c, s) => let a := outside.offer f s; (a.1, (c, a.2))
  | .emit e, (c, s) => let r := c.emitter.write e; (r.1, ({ c with emitter := r.2 }, s))
  | .hit key p, (c, s) =>
    let r := c.windows.hit c.now key p.limit p.window; (.ok r.1, ({ c with windows := r.2 }, s))
  | .freshConversation, (c, s) => let a := outside.freshUuid s; (⟨a.1⟩, (c, a.2))
  | .freshUuid, (c, s) => let a := outside.freshUuid s; (a.1, (c, a.2))
  | .wallClock, (c, s) => let a := outside.wallClock s; (a.1, (c, a.2))
  | .elapsed, (c, s) => let a := outside.elapsed s; (a.1, (c, a.2))

end Collaborators
end CompletionGateway.Gateway
