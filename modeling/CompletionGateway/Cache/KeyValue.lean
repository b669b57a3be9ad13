import CompletionGateway.Cache.ExpiringMap
import CompletionGateway.Failure

/-! The backends that can hold cached values. One that is turned off drops what it is given and never finds
anything; one that could not be reached fails every call. -/
namespace CompletionGateway.Cache

inductive KeyValue where
  | memory (held : ExpiringMap)
  | disabled
  | unreachable (reason : String)

namespace KeyValue

def name : KeyValue → String
  | .memory _ => "memory"
  | .disabled => "none"
  | .unreachable _ => "unreachable"

def get (s : KeyValue) (now : Nat) (key : String) :
    Except CacheError (Option (List UInt8)) × KeyValue :=
  match s with
  | .memory m => let r := m.get now key; (.ok r.1, .memory r.2)
  | .disabled => (.ok none, s)
  | .unreachable reason => (.error ⟨reason⟩, s)

def set (s : KeyValue) (now : Nat) (key : String) (value : List UInt8) (ttl : Nat) :
    Except CacheError Unit × KeyValue :=
  match s with
  | .memory m => (.ok (), .memory (m.set now key value ttl))
  | .disabled => (.ok (), s)
  | .unreachable reason => (.error ⟨reason⟩, s)

def delete (s : KeyValue) (key : String) : Except CacheError Unit × KeyValue :=
  match s with
  | .memory m => (.ok (), .memory (m.delete key))
  | .disabled => (.ok (), s)
  | .unreachable reason => (.error ⟨reason⟩, s)

def ping : KeyValue → Except CacheError Unit
  | .unreachable reason => .error ⟨reason⟩
  | _ => .ok ()

/-- The number of entries held, expired ones included, where the backend holds any itself. -/
def size? : KeyValue → Option Nat
  | .memory m => some m.size
  | _ => none

end KeyValue

/-- The state of a backend as health checks report it. -/
inductive Health where
  | up
  | down
  | disabled
  deriving DecidableEq, Repr

def Health.name : Health → String
  | .up => "up"
  | .down => "down"
  | .disabled => "disabled"

/-- A backend that is turned off is not pinged. -/
def KeyValue.health (s : KeyValue) : Health :=
  if s.name = "none" then .disabled
  else
    match s.ping with
    | .ok () => .up
    | .error _ => .down

end CompletionGateway.Cache
