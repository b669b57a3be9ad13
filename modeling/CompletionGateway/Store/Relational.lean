import CompletionGateway.Conversation.Basic
import CompletionGateway.Failure

/-! The store that keeps conversations in two tables of a relational database, identifiers, roles and times
as texts. Times have a fixed width, so that their order as texts is their order in time. A row is read back
column by column, and any column may turn out to hold no legal value. -/
namespace CompletionGateway.Store

-- Powers are those of the core library, whatever else is imported.
attribute [local instance (2000)] instPowNat

/-- A row of the table of conversations; `id` is its primary key. -/
structure ConversationRow where
  id : String
  userId : String
  title : Option String
  createdAt : String
  updatedAt : String
  deriving DecidableEq, Repr

/-- A row of the table of messages; `id` is unique, and `conversationId` refers to a conversation. -/
structure MessageRow where
  id : String
  conversationId : String
  role : String
  content : String
  tokenCount : Option Int
  modelUsed : Option String
  latency : Option Numeric.Binary
  createdAt : String
  deriving DecidableEq, Repr

/-! ### Rows and records -/

def badUuid (s : String) : StoreError := .queryFailed ("bad uuid '" ++ s ++ "'")
def badTimestamp (s : String) : StoreError := .queryFailed ("bad timestamp '" ++ s ++ "'")

def readUuid (s : String) : Except StoreError Uuid :=
  match Uuid.parse? s with
  | some u => .ok u
  | none => .error (badUuid s)

def readTime (s : String) : Except StoreError Time :=
  match Time.parseStrict? s with
  | some t => .ok t
  | none => .error (badTimestamp s)

def readRole (s : String) : Except StoreError Role :=
  match Role.ofName s with
  | .ok r => .ok r
  | .error reason => .error (.queryFailed reason)

namespace ConversationRow

def ofConversation (c : Conversation) : ConversationRow :=
  ⟨c.id.text, c.owner.name, c.title, c.createdAt.microText, c.updatedAt.microText⟩

def read (r : ConversationRow) : Except StoreError Conversation := do
  let id ← readUuid r.id
  let createdAt ← readTime r.createdAt
  let updatedAt ← readTime r.updatedAt
  return ⟨⟨id⟩, ⟨r.userId⟩, r.title, createdAt, updatedAt⟩

end ConversationRow

/-- A count that no 32-bit word holds is left out. -/
def readCount (n : Int) : Option UInt32 := if 0 ≤ n ∧ n < 2 ^ (32 : Nat) then some (UInt32.ofNat n.toNat) else none

namespace MessageRow

def ofMessage (m : Message) : MessageRow :=
  ⟨m.id.text, m.conversation.text, m.role.name, m.content, m.tokenCount.map (·.toNat), m.model, m.latency,
    m.createdAt.microText⟩

def read (r : MessageRow) : Except StoreError Message := do
  let id ← readUuid r.id
  let conversation ← readUuid r.conversationId
  let role ← readRole r.role
  let createdAt ← readTime r.createdAt
  return ⟨id, ⟨conversation⟩, role, r.content, r.tokenCount.bind readCount, r.modelUsed, r.latency, createdAt⟩

end MessageRow

/-- A number as a column of reals holds it. A NaN is no value there, and zero has no sign. -/
def columnReal : Numeric.Binary → Option Numeric.Binary
  | .nan => none
  | .finite _ 0 e => some (.finite false 0 e)
  | x => some x

/-- A row as the table holds it. -/
def MessageRow.held (r : MessageRow) : MessageRow := { r with latency := r.latency.bind columnReal }

/-! ### Tables -/

/-- The tables, each in the order of insertion, and whether the database can still be used. -/
structure Relational where
  conversations : List ConversationRow
  messages : List MessageRow
  closed : Bool
  deriving Repr

namespace Relational

def empty : Relational := ⟨[], [], false⟩

def close (s : Relational) : Relational := ⟨s.conversations, s.messages, true⟩

/-- Insert a row whose primary key is new. -/
def insertConversation? (s : Relational) (r : ConversationRow) : Option Relational :=
  if s.closed || s.conversations.any (·.id = r.id) then none
  else some ⟨s.conversations ++ [r], s.messages, s.closed⟩

/-- Insert a row whose identifier is new and whose conversation exists. -/
def insertMessage? (s : Relational) (r : MessageRow) : Option Relational :=
  if s.closed || s.messages.any (·.id = r.id) || !s.conversations.any (·.id = r.conversationId) then none
  else some ⟨s.conversations, s.messages ++ [r.held], s.closed⟩

/-- The later text, the first of two equal ones. -/
def maxText (a b : String) : String := if a < b then b else a

/-- Make a conversation at least as recent as a time. -/
def touch (s : Relational) (id time : String) : Relational :=
  ⟨s.conversations.map fun r =>
    if r.id = id then ⟨r.id, r.userId, r.title, r.createdAt, maxText r.updatedAt time⟩ else r,
    s.messages, s.closed⟩

def find (s : Relational) (id : ConversationId) : Except StoreError (Option Conversation) :=
  if s.closed then .error (.queryFailed "get conversation")
  else
    match s.conversations.find? (·.id = id.text) with
    | some r => r.read.map some
    | none => .ok none

def create (s : Relational) (c : Conversation) : Except StoreError Unit × Relational :=
  match s.insertConversation? (.ofConversation c) with
  | some s' => (.ok (), s')
  | none => (.error (.queryFailed "INSERT conversation failed"), s)

/-- Append a message and touch its conversation in one transaction. -/
def append (s : Relational) (m : Message) : Except StoreError Unit × Relational :=
  if s.closed then (.error (.storage "begin transaction"), s)
  else
    match s.insertMessage? (.ofMessage m) with
    | some s' => (.ok (), s'.touch m.conversation.text m.createdAt.microText)
    | none => (.error (.queryFailed "INSERT message failed"), s)

/-- Messages of a conversation by time, those of one time in the order of insertion. -/
def messagesOf (s : Relational) (id : ConversationId) : Except StoreError (List Message) :=
  if s.closed then .error (.queryFailed "list messages")
  else
    let rows := s.messages.filter fun r => r.conversationId = id.text
    (rows.mergeSort fun a b => !(b.createdAt < a.createdAt)).mapM MessageRow.read

/-- A limit as the database takes it: a 64-bit word, of which a negative one stands for no limit. -/
def takeLimit {α : Type} (limit : Nat) (xs : List α) : List α :=
  let n := limit % 2 ^ (64 : Nat)
  if n < 2 ^ (63 : Nat) then xs.take n else xs

/-- Conversations of an owner, the most recently updated first. -/
def ownedBy (s : Relational) (owner : Principal) (limit : Nat) : Except StoreError (List Conversation) :=
  if s.closed then .error (.queryFailed "list conversations")
  else
    let rows := s.conversations.filter fun r => r.userId = owner.name
    (takeLimit limit (rows.mergeSort fun a b => !(a.updatedAt < b.updatedAt))).mapM ConversationRow.read

def ping (s : Relational) : Except StoreError Unit :=
  if s.closed then .error (.storage "ping") else .ok ()

end Relational
end CompletionGateway.Store
