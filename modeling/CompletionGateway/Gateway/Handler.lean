import CompletionGateway.Cache.KeyValue
import CompletionGateway.Gateway.Reply
import CompletionGateway.Gateway.Route
import CompletionGateway.Http.MediaType

/-! What each route answers once the request has been let in. -/
namespace CompletionGateway.Gateway
open Program

def version : String := "0.1.0"

/-! ### Health -/

/-- The state of the cache. One that is turned off is not asked. -/
def cacheHealth (cacheEnabled : Bool) : Program Cache.Health :=
  if cacheEnabled then
    Program.bind (perform .pingCache) fun
      | .ok () => .done .up
      | .error _ => .done .down
  else .done .disabled

/-- The report on store and cache; a failing one degrades the service. -/
def healthReply (databaseUp : Bool) (cache : Cache.Health) : Reply :=
  let degraded := !databaseUp || cache == .down
  Reply.json (if degraded then 503 else 200) (.object [
    ("status", .string (if degraded then "degraded" else "ok")), ("version", .string version),
    ("database", .string (if databaseUp then "up" else "down")), ("cache", .string cache.name)])

def health (cacheEnabled : Bool) : Program Reply :=
  Program.bind (perform .pingStore) fun database =>
  Program.bind (cacheHealth cacheEnabled) fun cache =>
  .done (healthReply database.isOk cache)

/-! ### Completion -/

/-- Why a body is no request. -/
inductive BodyFault where
  | tooLarge
  | invalid
  deriving DecidableEq, Repr

def BodyFault.reply : BodyFault → Reply
  | .tooLarge => Reply.failure 413 "request body too large"
  | .invalid => Reply.badRequest "invalid request body"

def hasJsonBody (r : Http.Request) : Bool :=
  match (r.header? "content-type").bind Http.headerText? with
  | some s => Http.MediaType.isJson s
  | none => false

/-- The request in a body, which must be declared as JSON and be of bounded length. -/
def readRequest (limit : Nat) (r : Http.Request) : Except BodyFault PipelineRequest :=
  if !hasJsonBody r then .error .invalid
  else if limit < r.body.length then .error .tooLarge
  else
    match Json.decodeBytes PipelineRequest.ofTree? r.body with
    | some q => .ok q
    | none => .error .invalid

/-- Write an event, whether or not the client still listens. -/
def emit (e : EventStream.Event) : Program Unit := Program.bind (perform (.emit e)) fun _ => .done ()

/-- What a stream ends with: the failure, unless it is the client's own leaving, and the end mark. -/
def endStream : Except PipelineError ConversationId → Program Unit
  | .ok _ => emit .ending
  | .error .cancelled => emit .ending
  | .error e => Program.bind (emit (.ofFailure e.clientMessage)) fun _ => emit .ending

/-- Write the events of a streamed answer. -/
def writeStream (o : Orchestrator) (p : Principal) (q : PipelineRequest) : Program Unit :=
  Program.bind (o.stream (fun f => perform (.emit (.ofFrame f))) p q) endStream

/-- Answer a request for a completion. A prompt that is no good is refused before a stream is opened. -/
def complete (o : Orchestrator) (bodyLimit : Nat) (p : Principal) (r : Http.Request) : Program Reply :=
  match readRequest bodyLimit r with
  | .error fault => .done fault.reply
  | .ok q =>
    if q.stream then
      match o.validate q with
      | .error e => .done (Reply.ofError e)
      | .ok () => .done ⟨Reply.eventHead, .events (writeStream o p q)⟩
    else
      Program.bind (o.complete p q) fun
        | .ok response => .done (Reply.json 200 response.toJson)
        | .error e => .done (Reply.ofError e)

/-! ### Listings -/

def conversations (p : Principal) : Program Reply :=
  Program.bind (Orchestrator.listConversations p) fun
    | .ok cs => .done (Reply.json 200 (.array (cs.map Conversation.toJson)))
    | .error e => .done (Reply.ofError e)

/-- The messages of the conversation that a text names. -/
def messagesOf (p : Principal) (id : String) : Program Reply :=
  match ConversationId.parse? id with
  | none => .done (Reply.badRequest "invalid conversation id")
  | some id =>
    Program.bind (Orchestrator.listMessages p id) fun
      | .ok ms => .done (Reply.json 200 (.array (ms.map Message.toJson)))
      | .error e => .done (Reply.ofError e)

/-- The identifier stands percent-encoded in the path. -/
def messagesByPath (p : Principal) (id : String) : Program Reply :=
  match Text.Utf8.decode? (Http.percentDecode (Text.utf8 id)) with
  | some id => messagesOf p id
  | none => .done (Reply.text 400 "Invalid URL: Invalid UTF-8 in `id`")

/-- The identifier is the field `conversation_id` of the query, which may occur once. -/
def messagesByQuery (p : Principal) (query : Option String) : Program Reply :=
  let ids := ((Http.queryFields (query.getD "")).filter (·.1 = "conversation_id")).map (·.2)
  match ids with
  | [] => .done (Reply.badRequest "conversation_id is required")
  | [id] =>
    if id.isEmpty then .done (Reply.badRequest "conversation_id is required") else messagesOf p id
  | _ =>
    .done (Reply.text 400 "Failed to deserialize query string: duplicate field `conversation_id`")

end CompletionGateway.Gateway
