import CompletionGateway.Association
import CompletionGateway.Conversation.Basic
import CompletionGateway.Failure

/-! The store that keeps conversations in memory. Messages stay in the order of appending. The order in which the map
goes through the conversations is nobody's to rely on. -/
namespace CompletionGateway.Store

structure Memory where
  conversations : Association ConversationId Conversation
  messages : List Message
  deriving Repr

namespace Memory

def empty : Memory := ⟨.empty, []⟩

def find? (s : Memory) (id : ConversationId) : Option Conversation := s.conversations.find? id

def alreadyExists (id : ConversationId) : StoreError :=
  .queryFailed ("conversation " ++ id.text ++ " already exists")

def doesNotExist (id : ConversationId) : StoreError :=
  .queryFailed ("conversation " ++ id.text ++ " does not exist")

def create (s : Memory) (c : Conversation) : Except StoreError Unit × Memory :=
  if s.conversations.contains c.id then (.error (alreadyExists c.id), s)
  else (.ok (), ⟨s.conversations.insert c.id c, s.messages⟩)

/-- Append a message to its conversation, which is as recent as its latest message. -/
def append (s : Memory) (m : Message) : Except StoreError Unit × Memory :=
  match s.conversations.find? m.conversation with
  | none => (.error (doesNotExist m.conversation), s)
  | some c => (.ok (), ⟨s.conversations.insert m.conversation (c.touch m.createdAt), s.messages ++ [m]⟩)

def messagesOf (s : Memory) (id : ConversationId) : List Message :=
  s.messages.filter fun m => m.conversation = id

/-- The same store, its map going through the conversations in another order. A map has one order at each call, and may
have another at the next. -/
structure Reordered (s s' : Memory) : Prop where
  entries : s.conversations.entries.Perm s'.conversations.entries
  messages : s.messages = s'.messages

/-- Conversations of an owner, the most recently updated first. Those of one time stay in the order in which the map
goes through them, so that a caller may be told what any `Reordered` store tells. -/
def ownedBy (s : Memory) (owner : Principal) (limit : Nat) : List Conversation :=
  let owned := (s.conversations.entries.map (·.2)).filter (·.isOwnedBy owner)
  (owned.mergeSort fun a b => Time.le b.updatedAt a.updatedAt).take limit

end Memory
end CompletionGateway.Store
