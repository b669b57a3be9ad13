import CompletionGateway.Conversation.Basic
import CompletionGateway.Json.Decode

/-! Conversations in JSON. Absent optional fields are not written. -/
namespace CompletionGateway
open Json Json.Decode Numeric

def Uuid.toJson (u : Uuid) : Json := .string u.text
def Uuid.ofTree? : Decoder Uuid
  | .string s => s.bind Uuid.parse?
  | _ => none

def ConversationId.toJson (id : ConversationId) : Json := id.uuid.toJson
def ConversationId.ofTree? : Decoder ConversationId := fun t => (Uuid.ofTree? t).map .mk

def Time.toJson (t : Time) : Json := .string t.text
def Time.ofTree? : Decoder Time
  | .string s => s.bind Time.parseLenient?
  | _ => none

def Json.word32 (n : UInt32) : Json := .nat n.toNat
def Json.Decode.count : Decoder UInt32 := fun t => (word32 t).map UInt32.ofNat

namespace Role

def toJson (r : Role) : Json := .string r.name

/-- A role is its name, or an object whose only member has that name and the value `null`. -/
def ofTree? : Decoder Role
  | .string s => s.bind fun s => (ofName s).toOption
  | .object [(some s, .null)] => (ofName s).toOption
  | _ => none

end Role

namespace Turn

def toJson (t : Turn) : Json := .object [("role", t.role.toJson), ("content", .string t.content)]

def ofTree? : Decoder Turn := fun t => do
  let fs ← fields ["role", "content"] t
  some ⟨← required Role.ofTree? fs 0, ← required text fs 1⟩

end Turn

namespace Message

/-- The fields that follow the identifiers and come before the time. -/
def contentMembers (m : Message) : List (String × Json) :=
  [("role", m.role.toJson), ("content", .string m.content)] ++ field? "token_count" word32 m.tokenCount ++
    field? "model_used" .string m.model ++ field? "latency_ms" (.real double) m.latency

def toJson (m : Message) : Json :=
  .object ([("id", m.id.toJson), ("conversation_id", m.conversation.toJson)] ++ m.contentMembers ++
    [("created_at", m.createdAt.toJson)])

def ofTree? : Decoder Message := fun t => do
  let fs ← fields ["id", "conversation_id", "role", "content", "token_count", "model_used", "latency_ms",
    "created_at"] t
  some ⟨← required Uuid.ofTree? fs 0, ← required ConversationId.ofTree? fs 1, ← required Role.ofTree? fs 2,
    ← required text fs 3, ← maybe count fs 4, ← maybe text fs 5, ← maybe (real double) fs 6,
    ← required Time.ofTree? fs 7⟩

end Message

namespace Conversation

def toJson (c : Conversation) : Json :=
  .object ([("id", c.id.toJson), ("user_id", .string c.owner.name)] ++ field? "title" .string c.title ++
    [("created_at", c.createdAt.toJson), ("updated_at", c.updatedAt.toJson)])

def ofTree? : Decoder Conversation := fun t => do
  let fs ← fields ["id", "user_id", "title", "created_at", "updated_at"] t
  some ⟨← required ConversationId.ofTree? fs 0, ⟨← required text fs 1⟩, ← maybe text fs 2,
    ← required Time.ofTree? fs 3, ← required Time.ofTree? fs 4⟩

end Conversation
end CompletionGateway
