import CompletionGateway.Store.Memory
import CompletionGateway.Store.Relational

/-! A store of conversations of either kind. -/
namespace CompletionGateway.Store

inductive Conversations where
  | memory (held : Memory)
  | relational (tables : Relational)

namespace Conversations

def name : Conversations → String
  | .memory _ => "memory"
  | .relational _ => "sqlite"

def find (s : Conversations) (id : ConversationId) : Except StoreError (Option Conversation) :=
  match s with
  | .memory m => .ok (m.find? id)
  | .relational t => t.find id

def create (s : Conversations) (c : Conversation) : Except StoreError Unit × Conversations :=
  match s with
  | .memory m => let r := m.create c; (r.1, .memory r.2)
  | .relational t => let r := t.create c; (r.1, .relational r.2)

def append (s : Conversations) (m : Message) : Except StoreError Unit × Conversations :=
  match s with
  | .memory held => let r := held.append m; (r.1, .memory r.2)
  | .relational t => let r := t.append m; (r.1, .relational r.2)

def messagesOf (s : Conversations) (id : ConversationId) : Except StoreError (List Message) :=
  match s with
  | .memory m => .ok (m.messagesOf id)
  | .relational t => t.messagesOf id

/-- The same store, a map in memory going through the conversations in another order. -/
inductive Reordered : Conversations → Conversations → Prop
  | memory {s s' : Memory} (h : s.Reordered s') : Reordered (.memory s) (.memory s')
  | relational (t : Relational) : Reordered (.relational t) (.relational t)

/-- Conversations of an owner, the most recently updated first. A caller may be told what any `Reordered` store tells. -/
def ownedBy (s : Conversations) (owner : Principal) (limit : Nat) : Except StoreError (List Conversation) :=
  match s with
  | .memory m => .ok (m.ownedBy owner limit)
  | .relational t => t.ownedBy owner limit

def ping : Conversations → Except StoreError Unit
  | .memory _ => .ok ()
  | .relational t => t.ping

/-- The number of messages held, where the store holds them itself. -/
def messageCount? : Conversations → Option Nat
  | .memory m => some m.messages.length
  | .relational _ => none

end Conversations
end CompletionGateway.Store
