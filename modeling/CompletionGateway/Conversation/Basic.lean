import CompletionGateway.Uuid
import CompletionGateway.Time
import CompletionGateway.Numeric.Decimal

/-! Conversations: who takes part, what is said, and the record that is kept of it. -/
namespace CompletionGateway

/-- An authenticated caller, known by an opaque name. -/
structure Principal where
  name : String
  deriving DecidableEq, Repr, Inhabited

structure ConversationId where
  uuid : Uuid
  deriving DecidableEq, Repr, Inhabited

namespace ConversationId

def text (id : ConversationId) : String := id.uuid.text

/-- An identifier written with any white space around it. -/
def parse? (s : String) : Option ConversationId := (Uuid.parse? (Text.trim s)).map .mk

end ConversationId

inductive Role where
  | user
  | assistant
  | system
  deriving DecidableEq, Repr, Inhabited

namespace Role

def name : Role → String
  | .user => "user"
  | .assistant => "assistant"
  | .system => "system"

/-- The role of a name, or what is wrong with the name. -/
def ofName (s : String) : Except String Role :=
  if s = "user" then .ok .user
  else if s = "assistant" then .ok .assistant
  else if s = "system" then .ok .system
  else .error ("unknown role '" ++ s ++ "'")

theorem ofName_name (r : Role) : ofName r.name = .ok r := by cases r <;> rfl

end Role

/-- What one participant says, as the completion backend is told it. -/
structure Turn where
  role : Role
  content : String
  deriving DecidableEq, Repr, Inhabited

/-- A message on record. -/
structure Message where
  id : Uuid
  conversation : ConversationId
  role : Role
  content : String
  tokenCount : Option UInt32
  /-- The model that wrote the answer. -/
  model : Option String
  latency : Option Numeric.Binary
  createdAt : Time
  deriving DecidableEq, Repr

namespace Message

def ofUser (id : Uuid) (createdAt : Time) (conversation : ConversationId) (content : String) : Message :=
  ⟨id, conversation, .user, content, none, none, none, createdAt⟩

/-- An answer. A token count of zero and a latency that is not positive are left out. -/
def ofAssistant (id : Uuid) (createdAt : Time) (conversation : ConversationId) (content model : String)
    (tokens : UInt32) (latency : Numeric.Binary) : Message :=
  ⟨id, conversation, .assistant, content, if 0 < tokens then some tokens else none, some model,
    if latency.isPositive then some latency else none, createdAt⟩

/-- What the message contributes to later requests. -/
def turn (m : Message) : Turn := ⟨m.role, m.content⟩

end Message

/-- The head of a conversation. -/
structure Conversation where
  id : ConversationId
  owner : Principal
  title : Option String
  createdAt : Time
  updatedAt : Time
  deriving DecidableEq, Repr

namespace Conversation

/-- A conversation that begins now. -/
def start (id : ConversationId) (now : Time) (owner : Principal) : Conversation :=
  ⟨id, owner, none, now, now⟩

def isOwnedBy (c : Conversation) (p : Principal) : Bool := c.owner == p

/-- The conversation after a message of the given time. -/
def touch (c : Conversation) (moment : Time) : Conversation :=
  ⟨c.id, c.owner, c.title, c.createdAt, Time.latest c.updatedAt moment⟩

end Conversation
end CompletionGateway
