import CompletionGateway.Admission.LocalWindow
import CompletionGateway.Failure

/-! The sliding window that several gateways share through a server of sorted sets. A request is recorded
first and counted after, so that a denied one occupies the window too; the four commands run as one
transaction. Arithmetic on times is that of 64-bit signed words, which wrap. -/
namespace CompletionGateway.Admission

-- Powers are those of the core library, whatever else is imported.
attribute [local instance (2000)] instPowNat

/-- A command to the server of sorted sets. -/
inductive Command where
  | removeByScore (key : String) (least greatest : Int)
  | add (key member : String) (score : Int)
  | cardinality (key : String)
  | expire (key : String) (seconds : Int)
  deriving DecidableEq, Repr

/-- The signed 64-bit word that is congruent to an integer. -/
def wrap64 (i : Int) : Int := Int.bmod i (2 ^ (64 : Nat))

/-- One gateway's view of the shared window. Lengths of time are nanoseconds. -/
structure SharedWindow where
  expiryBuffer : Nat
  /-- Requests made by this gateway so far. -/
  sequence : Nat
  deriving DecidableEq, Repr

namespace SharedWindow

/-- Requests scored up to this, in microseconds, have left the window. -/
def windowStart (now : Int) (window : Nat) : Int := wrap64 (now - wrap64 (window / 1000))

/-- Seconds until the server may forget the key: window and buffer, but at least one second. -/
def expiry (s : SharedWindow) (window : Nat) : Int := wrap64 (max ((window + s.expiryBuffer) / 1000000000) 1)

/-- The member that records a request: the time, and a number that tells apart this gateway's requests of
one microsecond. -/
def member (s : SharedWindow) (now : Int) : String := toString now ++ "-" ++ toString s.sequence

/-- Evict, insert, count and set the expiry. -/
def transaction (s : SharedWindow) (now : Int) (key : String) (window : Nat) : List Command :=
  [.removeByScore key 0 (windowStart now window), .add key (s.member now) now, .cardinality key,
    .expire key (s.expiry window)]

/-- The clock in microseconds, so many nanoseconds after the beginning of 1970. -/
def clock (elapsed : Nat) : Int := wrap64 (elapsed / 1000)

/-- Two lengths of time together, as long as a word holds their whole seconds. -/
def together? (a b : Nat) : Option Nat := if (a + b) / 1000000000 < 2 ^ (64 : Nat) then some (a + b) else none

/-- What a request sends. If window and buffer cannot be added, the request fails before anything is sent. -/
def send? (s : SharedWindow) (elapsed : Nat) (key : String) (window : Nat) : Option (List Command) :=
  (together? window s.expiryBuffer).map fun _ => s.transaction (clock elapsed) key window

def advance (s : SharedWindow) : SharedWindow := ⟨s.expiryBuffer, (s.sequence + 1) % 2 ^ (64 : Nat)⟩

/-- The outcome for the count that the server reported. -/
def outcome (limit count : UInt32) : Outcome := ⟨count ≤ limit, count⟩

end SharedWindow

/-- A sorted set and the time, in microseconds, at which the server deletes it. -/
structure SortedSet where
  members : List (String × Int)
  deadline : Option Int
  deriving DecidableEq, Repr

/-- The server: its sorted sets by key, and whether it deletes keys whose time is over. -/
structure SetServer where
  sets : Association String SortedSet
  expires : Bool
  deriving Repr

namespace SetServer

/-- The set of a key; a missing one is empty, and so is one whose time is over. -/
def lookup (s : SetServer) (now : Int) (key : String) : SortedSet :=
  match s.sets.find? key with
  | some set =>
    match set.deadline with
    | some d => if s.expires && d ≤ now then ⟨[], none⟩ else set
    | none => set
  | none => ⟨[], none⟩

def store (s : SetServer) (key : String) (set : SortedSet) : SetServer :=
  if set.members.isEmpty then ⟨s.sets.erase key, s.expires⟩ else ⟨s.sets.insert key set, s.expires⟩

/-- A member that is there already only gets a new score. -/
def addMember (members : List (String × Int)) (member : String) (score : Int) : List (String × Int) :=
  members.filter (·.1 ≠ member) ++ [(member, score)]

/-- Run a command; counting is the only one that reports. -/
def run (s : SetServer) (now : Int) : Command → Option Nat × SetServer
  | .removeByScore key least greatest =>
    let set := s.lookup now key
    (none, s.store key ⟨set.members.filter fun m => !(least ≤ m.2 && m.2 ≤ greatest), set.deadline⟩)
  | .add key member score =>
    let set := s.lookup now key
    (none, s.store key ⟨addMember set.members member score, set.deadline⟩)
  | .cardinality key => (some (s.lookup now key).members.length, s)
  | .expire key seconds =>
    let set := s.lookup now key
    (none, if set.members.isEmpty then s else s.store key ⟨set.members, some (now + seconds * 1000000)⟩)

/-- Run commands as one transaction and report the last count. -/
def runAll (s : SetServer) (now : Int) (commands : List Command) : Option Nat × SetServer :=
  commands.foldl (fun r c =>
    let n := r.2.run now c
    (n.1.or r.1, n.2)) (none, s)

end SetServer

/-- A request of one gateway at a time of the server's clock in microseconds. -/
def SharedWindow.hit (s : SharedWindow) (server : SetServer) (now : Int) (key : String) (limit : UInt32)
    (window : Nat) : Outcome × SharedWindow × SetServer :=
  let r := server.runAll now (s.transaction now key window)
  (outcome limit (UInt32.ofNat (r.1.getD 0)), s.advance, r.2)

end CompletionGateway.Admission
