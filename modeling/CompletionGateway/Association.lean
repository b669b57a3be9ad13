/-! Finite maps as lists of pairs in the order in which the keys were first entered. -/
namespace CompletionGateway

structure Association (κ α : Type) where
  entries : List (κ × α)
  deriving Repr, DecidableEq

namespace Association
variable {κ α : Type} [DecidableEq κ]

def empty : Association κ α := ⟨[]⟩

instance : Inhabited (Association κ α) := ⟨empty⟩

def size (m : Association κ α) : Nat := m.entries.length

def find? (m : Association κ α) (k : κ) : Option α := (m.entries.find? (·.1 = k)).map (·.2)

def contains (m : Association κ α) (k : κ) : Bool := m.entries.any (·.1 = k)

/-- Enter a value, in the place of the key's old one if there is one. -/
def insert (m : Association κ α) (k : κ) (a : α) : Association κ α :=
  if m.contains k then ⟨m.entries.map fun e => if e.1 = k then (k, a) else e⟩ else ⟨m.entries ++ [(k, a)]⟩

def erase (m : Association κ α) (k : κ) : Association κ α := ⟨m.entries.filter fun e => e.1 ≠ k⟩

/-- Keep the entries whose value satisfies a test. -/
def retain (m : Association κ α) (p : α → Bool) : Association κ α := ⟨m.entries.filter fun e => p e.2⟩

end Association
end CompletionGateway
