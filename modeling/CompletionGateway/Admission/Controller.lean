import CompletionGateway.Address
import CompletionGateway.Admission.LocalWindow
import CompletionGateway.Failure

/-! Admission control: one check per request. A window store that fails admits the request. -/
namespace CompletionGateway.Admission

/-- The limit on one identity: so many requests in so many nanoseconds. -/
structure Policy where
  limit : UInt32
  window : Nat
  deriving DecidableEq, Repr

structure Decision where
  admitted : Bool
  limit : UInt32
  remaining : UInt32
  /-- Nanoseconds to wait, given with a denial. -/
  retryAfter : Option Nat
  deriving DecidableEq, Repr

/-- The decision on the window store's answer. -/
def Policy.decide (p : Policy) : Except AdmissionError Outcome → Decision
  | .ok o =>
    if o.admitted then ⟨true, p.limit, if o.count ≤ p.limit then p.limit - o.count else 0, none⟩
    else ⟨false, p.limit, 0, some p.window⟩
  | .error _ => ⟨true, p.limit, p.limit, none⟩

/-- The key of a peer's window. -/
def clientKey (peer : Address) : String := "rl:" ++ peer.text

/-- The key of requests whose peer is not known. -/
def unknownClient : String := "rl:unknown"

end CompletionGateway.Admission
