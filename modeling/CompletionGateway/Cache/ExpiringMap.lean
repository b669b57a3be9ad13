import CompletionGateway.Association

/-! A map whose entries expire, of bounded size. Expired entries go when they are met: one at a time by a
read, all at once by a write that finds the map full. If that does not help, the write drops the entry that
would expire first. Times are nanoseconds of a clock that does not go back. -/
namespace CompletionGateway.Cache

structure Entry where
  value : List UInt8
  expiresAt : Nat
  deriving DecidableEq, Repr

structure ExpiringMap where
  entries : Association String Entry
  capacity : Nat
  deriving Repr

namespace ExpiringMap

/-- The capacity unless another is set. -/
def defaultCapacity : Nat := 10000

/-- At least one entry can be held. -/
def empty (capacity : Nat) : ExpiringMap := ⟨.empty, max capacity 1⟩

def size (m : ExpiringMap) : Nat := m.entries.size

/-- What a read sees before it changes anything. -/
inductive Sight where
  | held (value : List UInt8)
  | expired
  | absent
  deriving DecidableEq, Repr

def look (m : ExpiringMap) (now : Nat) (key : String) : Sight :=
  match m.entries.find? key with
  | some e => if now < e.expiresAt then .held e.value else .expired
  | none => .absent

/-- Drop the entry of a key if it has expired by the given time. -/
def purge (m : ExpiringMap) (now : Nat) (key : String) : ExpiringMap :=
  match m.entries.find? key with
  | some e => if e.expiresAt ≤ now then ⟨m.entries.erase key, m.capacity⟩ else m
  | none => m

/-- A read, which drops the entry it finds expired. -/
def get (m : ExpiringMap) (now : Nat) (key : String) : Option (List UInt8) × ExpiringMap :=
  match m.look now key with
  | .held v => (some v, m)
  | .expired => (none, m.purge now key)
  | .absent => (none, m)

/-- The first of the entries that expire earliest. -/
def earliest : List (String × Entry) → Option (String × Entry)
  | [] => none
  | e :: es =>
    match earliest es with
    | some f => if f.2.expiresAt < e.2.expiresAt then some f else some e
    | none => some e

/-- Room for a new key: nothing is done unless the map is full. -/
def makeRoom (m : ExpiringMap) (now : Nat) : Association String Entry :=
  if m.capacity ≤ m.entries.size then
    let kept := m.entries.retain (now < ·.expiresAt)
    if m.capacity ≤ kept.size then
      match earliest kept.entries with
      | some e => kept.erase e.1
      | none => kept
    else kept
  else m.entries

def set (m : ExpiringMap) (now : Nat) (key : String) (value : List UInt8) (ttl : Nat) : ExpiringMap :=
  let room := if m.entries.contains key then m.entries else m.makeRoom now
  ⟨room.insert key ⟨value, now + ttl⟩, m.capacity⟩

def delete (m : ExpiringMap) (key : String) : ExpiringMap := ⟨m.entries.erase key, m.capacity⟩

end ExpiringMap
end CompletionGateway.Cache
