import CompletionGateway.Gateway.Handler

/-! The gateway from the outside in: requests from other origins, admission, the route, the caller, the method
and the handler. -/
namespace CompletionGateway.Gateway
open Program

structure Service where
  orchestrator : Orchestrator
  cacheEnabled : Bool
  policy : Admission.Policy
  /-- Callers by bearer token. -/
  tokens : Association String String
  /-- Paths that admission lets pass uncounted. -/
  exemptPaths : List String
  bodyLimit : Nat
  /-- Origins that browsers may come from; any if none is listed. -/
  origins : List String

namespace Service

/-! ### Callers -/

inductive AuthFault where
  | missing
  | malformed
  | unknown
  deriving DecidableEq, Repr

def AuthFault.message : AuthFault → String
  | .missing => "missing authorization header"
  | .malformed => "invalid authorization format"
  | .unknown => "invalid or expired token"

def bearer : List Char := "Bearer ".toList

/-- The token of the first authorization header. -/
def token (r : Http.Request) : Except AuthFault String :=
  match r.header? "authorization" with
  | none => .error .missing
  | some value =>
    let cs := ((Http.headerText? value).getD "").toList
    if cs.take bearer.length = bearer then .ok (Text.trim (String.ofList (cs.drop bearer.length)))
    else .error .malformed

/-- The caller a request's token belongs to. -/
def caller (g : Service) (r : Http.Request) : Except AuthFault Principal :=
  match token r with
  | .error f => .error f
  | .ok t =>
    match g.tokens.find? t with
    | some name => .ok ⟨name⟩
    | none => .error .unknown

/-! ### Routes -/

/-- The handler of a route for a caller. -/
def handle (g : Service) (route : Route) (p : Principal) (r : Http.Request) : Program Reply :=
  match route with
  | .health => health g.cacheEnabled
  | .complete => complete g.orchestrator g.bodyLimit p r
  | .conversations => conversations p
  | .messages id => messagesByPath p id
  | .messagesByQuery => messagesByQuery p r.query

/-- A method that the route does not answer. -/
def methodNotAllowed (route : Route) : Reply := (Reply.empty 405).set "allow" route.allow

/-- Answer on a route. The caller is asked for before the method is looked at. -/
def onRoute (g : Service) (route : Route) (r : Http.Request) : Program Reply :=
  if route.needsPrincipal then
    match g.caller r with
    | .error f => .done (Reply.unauthorized f.message)
    | .ok p => if route.methods.contains r.method then g.handle route p r else .done (methodNotAllowed route)
  else if route.methods.contains r.method then g.handle route ⟨""⟩ r
  else .done (methodNotAllowed route)

/-- Answer by the path of the request. -/
def dispatch (g : Service) (r : Http.Request) : Program Reply :=
  match Route.ofPath? r.path with
  | some route => g.onRoute route r
  | none => .done (Reply.empty 404)

/-! ### Admission -/

/-- Requests are counted by the address of their peer and by nothing else. -/
def windowKey (r : Http.Request) : String :=
  match r.peer with
  | some a => Admission.clientKey a
  | none => Admission.unknownClient

def seconds (nanos : Nat) : Nat := nanos / 1000000000

/-- The headers that tell a client how it stands. -/
def withDecision (d : Admission.Decision) (reply : Reply) : Reply :=
  let reply := (reply.set "x-ratelimit-limit" (toString d.limit.toNat)).set "x-ratelimit-remaining"
    (toString d.remaining.toNat)
  match d.retryAfter with
  | some wait => reply.set "retry-after" (toString (seconds wait))
  | none => reply

/-- Let a request through to `inner` if its path is exempt or its peer's window has room. -/
def withAdmission (g : Service) (r : Http.Request) (inner : Program Reply) : Program Reply :=
  if g.exemptPaths.contains r.path then inner
  else
    Program.bind (perform (.hit (windowKey r) g.policy)) fun answer =>
      let d := g.policy.decide answer
      if d.admitted then Program.bind inner fun reply => .done (withDecision d reply)
      else .done (withDecision d (Reply.ofError (.admissionDenied (seconds (d.retryAfter.getD 0)))))

/-! ### Other origins -/

/-- The listed origins that can stand in a header. -/
def legalOrigins (g : Service) : List (List UInt8) :=
  (g.origins.map Text.utf8).filter fun o => o.all Http.isLegal

/-- The origin a response is open to. -/
def allowedOrigin? (g : Service) (r : Http.Request) : Option String :=
  if g.origins.isEmpty then some "*"
  else
    match r.header? "origin" with
    | some o => if g.legalOrigins.contains o then some (Text.Utf8.decodeLossy o) else none
    | none => none

def withOrigin (g : Service) (r : Http.Request) (reply : Reply) : Reply :=
  let reply := reply.set "vary" "origin, access-control-request-method, access-control-request-headers"
  match g.allowedOrigin? r with
  | some o => reply.set "access-control-allow-origin" o
  | none => reply

/-- The answer to a browser that asks what it may send. -/
def preflight (g : Service) (r : Http.Request) : Reply :=
  let reply := (((Reply.empty 200).set "access-control-allow-methods" "GET,POST,OPTIONS").set
    "access-control-allow-headers" "content-type,authorization").set "access-control-max-age" "3600"
  g.withOrigin r reply

/-! ### All together -/

/-- The `allow` header of a known path goes with every answer to a method that the path does not have. -/
def withAllow (r : Http.Request) (reply : Reply) : Reply :=
  match Route.ofPath? r.path with
  | some route => if route.methods.contains r.method then reply else reply.setDefault "allow" route.allow
  | none => reply

def withMethod (r : Http.Request) (reply : Reply) : Reply := if r.method = "HEAD" then reply.headOnly else reply

/-- Answer a request. -/
def serve (g : Service) (r : Http.Request) : Program Reply :=
  if r.method = "OPTIONS" then .done (withAllow r (g.preflight r))
  else
    Program.bind (g.withAdmission r (g.dispatch r)) fun reply =>
    .done (withMethod r (withAllow r (g.withOrigin r reply)))

end Service
end CompletionGateway.Gateway
