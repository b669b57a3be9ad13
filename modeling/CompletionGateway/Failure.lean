/-! What can go wrong: the failures of each collaborator, and those of a request as its caller sees them. -/
namespace CompletionGateway

/-- A failure of the completion backend. -/
inductive ProviderError where
  /-- A response other than 2xx, with the start of its body. -/
  | api (status : Nat) (body : String)
  | network (reason : String)
  | timeout (reason : String)
  | streamInterrupted (reason : String)
  | decode (reason : String)
  | emptyResponse
  /-- The consumer of a stream wants no more of it. -/
  | aborted (reason : String)
  deriving DecidableEq, Repr, Inhabited

def ProviderError.message : ProviderError → String
  | .api status body => "API request failed (status: " ++ toString status ++ "): " ++ body
  | .network s => "Network error: " ++ s
  | .timeout s => "Request timed out: " ++ s
  | .streamInterrupted s => "Stream interrupted: " ++ s
  | .decode s => "Failed to decode response: " ++ s
  | .emptyResponse => "Backend returned no choices"
  | .aborted s => "Stream aborted by consumer: " ++ s

def ProviderError.kind : ProviderError → String
  | .api .. => "Api"
  | .network _ => "Network"
  | .timeout _ => "Timeout"
  | .streamInterrupted _ => "StreamInterrupted"
  | .decode _ => "Decode"
  | .emptyResponse => "EmptyResponse"
  | .aborted _ => "Aborted"

/-- A failure of the conversation store. -/
inductive StoreError where
  | storage (reason : String)
  | queryFailed (reason : String)
  | migrationFailed (reason : String)
  deriving DecidableEq, Repr, Inhabited

def StoreError.message : StoreError → String
  | .storage s => "Storage error: " ++ s
  | .queryFailed s => "Query failed: " ++ s
  | .migrationFailed s => "Migration failed: " ++ s

def StoreError.kind : StoreError → String
  | .storage _ => "Storage"
  | .queryFailed _ => "QueryFailed"
  | .migrationFailed _ => "MigrationFailed"

/-- The cache backend cannot be reached. -/
structure CacheError where
  reason : String
  deriving DecidableEq, Repr, Inhabited

def CacheError.message (e : CacheError) : String := "Cache unavailable: " ++ e.reason

/-- The store of admission windows cannot be reached. -/
structure AdmissionError where
  reason : String
  deriving DecidableEq, Repr, Inhabited

def AdmissionError.message (e : AdmissionError) : String := "Window store unavailable: " ++ e.reason

/-- The failure of a request. -/
inductive PipelineError where
  | admissionDenied (retryAfterSeconds : Nat)
  | conversationNotFound (id : String)
  | conversationForbidden (id : String)
  | invalidRequest (reason : String)
  | backend (cause : ProviderError)
  | store (cause : StoreError)
  | cancelled
  deriving DecidableEq, Repr, Inhabited

namespace PipelineError

/-- The kind of failure; a collaborator's failure is named with its own kind. -/
def kind : PipelineError → String
  | .admissionDenied _ => "AdmissionDenied"
  | .conversationNotFound _ => "ConversationNotFound"
  | .conversationForbidden _ => "ConversationForbidden"
  | .invalidRequest _ => "InvalidRequest"
  | .backend e => "Upstream." ++ e.kind
  | .store e => "Store." ++ e.kind
  | .cancelled => "Cancelled"

/-- The full account, for logs. -/
def message : PipelineError → String
  | .admissionDenied n => "Rate limit exceeded, retry after " ++ toString n ++ "s"
  | .conversationNotFound id => "Conversation not found: " ++ id
  | .conversationForbidden id => "Not authorized to access conversation " ++ id
  | .invalidRequest s => "Invalid request: " ++ s
  | .backend e => "Upstream failure: " ++ e.message
  | .store e => "Store error: " ++ e.message
  | .cancelled => "Request cancelled"

/-- The HTTP status the failure is answered with. -/
def status : PipelineError → Nat
  | .admissionDenied _ => 429
  | .conversationNotFound _ => 404
  | .conversationForbidden _ => 403
  | .invalidRequest _ => 400
  | .backend _ => 502
  | .store _ => 500
  | .cancelled => 499

/-- The short account a client is given. -/
def clientMessage : PipelineError → String
  | .admissionDenied _ => "rate limit exceeded"
  | .conversationNotFound _ => "conversation not found"
  | .conversationForbidden _ => "forbidden"
  | .invalidRequest s => s
  | .backend e => "inference failed: " ++ e.message
  | .store _ => "internal error"
  | .cancelled => "request cancelled"

end PipelineError
end CompletionGateway
