import CompletionGateway.Http.UrlEncoding

/-! The routes. Paths are matched as they are written; the identifier in one is decoded after. -/
namespace CompletionGateway.Gateway

inductive Route where
  | health
  | complete
  | conversations
  | messages (id : String)
  | messagesByQuery
  deriving DecidableEq, Repr

namespace Route

def ofPath? (path : String) : Option Route :=
  match (Http.splitAt '/' path.toList).map String.ofList with
  | ["", "health"] => some .health
  | ["", "api", "v1", "inference", "complete"] => some .complete
  | ["", "api", "v1", "conversations"] => some .conversations
  | ["", "api", "v1", "conversations", id, "messages"] => some (.messages id)
  | ["", "api", "v1", "conversation-messages"] => some .messagesByQuery
  | _ => none

/-- Only the health check is open to everybody. -/
def needsPrincipal : Route → Bool
  | .health => false
  | _ => true

/-- The methods a route answers. -/
def methods : Route → List String
  | .complete => ["POST"]
  | _ => ["GET", "HEAD"]

/-- The methods as the `allow` header lists them. -/
def allow (r : Route) : String := String.intercalate "," r.methods

end Route
end CompletionGateway.Gateway
