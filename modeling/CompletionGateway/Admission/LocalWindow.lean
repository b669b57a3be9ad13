import CompletionGateway.Association

/-! The sliding window of a single process: for each identity the times of its admitted requests within the
trailing window, oldest first. A denied request leaves no trace. Times are nanoseconds. -/
namespace CompletionGateway.Admission

/-- The outcome of one request: the requests in the window after it. -/
structure Outcome where
  admitted : Bool
  count : UInt32
  deriving DecidableEq, Repr

structure LocalWindow where
  clients : Association String (List Nat)
  deriving Repr

namespace LocalWindow

def empty : LocalWindow := ⟨.empty⟩

/-- With more identities than this, a request first drops those that are idle. -/
def crowd : Nat := 10000

/-- A time lies in the window that ends now. -/
def isRecent (now window t : Nat) : Bool := now - t < window

/-- The last admitted request of an identity is recent. -/
def isActive (now window : Nat) (times : List Nat) : Bool :=
  match times.getLast? with
  | some t => isRecent now window t
  | none => false

/-- The identities after idle ones were dropped, if there were too many. -/
def tidy (s : LocalWindow) (now window : Nat) : Association String (List Nat) :=
  if crowd < s.clients.size then s.clients.retain (isActive now window) else s.clients

/-- Admit a request unless the window holds as many admitted ones as the limit allows. -/
def hit (s : LocalWindow) (now : Nat) (key : String) (limit : UInt32) (window : Nat) : Outcome × LocalWindow :=
  let clients := s.tidy now window
  let times := ((clients.find? key).getD []).filter (isRecent now window)
  if limit.toNat ≤ times.length then
    (⟨false, UInt32.ofNat times.length⟩, ⟨clients.insert key times⟩)
  else
    let times := times ++ [now]
    (⟨true, UInt32.ofNat times.length⟩, ⟨clients.insert key times⟩)

end LocalWindow
end CompletionGateway.Admission
