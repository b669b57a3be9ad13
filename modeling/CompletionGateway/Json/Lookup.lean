import CompletionGateway.Json.Decode

/-! Lenient reading of trees. What is missing or of another kind reads as an empty text, zero or an empty list. -/
namespace CompletionGateway.Json.Tree

/-- The first member of a name. -/
def member? (t : Tree) (name : String) : Option Tree :=
  match t with
  | .object ms => (ms.find? (·.1 == some name)).map (·.2)
  | _ => none

/-- A member that is there and not `null`. -/
def given? (t : Tree) (name : String) : Option Tree :=
  match t.member? name with
  | some .null => none
  | r => r

def member (t : Tree) (name : String) : Tree := (t.member? name).getD .null

def isText : Tree → Bool
  | .string _ => true
  | _ => false

def asText : Tree → String
  | .string s => s.getD ""
  | _ => ""

def asInt : Tree → Int
  | .number n =>
    match n.read? with
    | some (.integer i) => i
    | _ => 0
  | _ => 0

def asNat (t : Tree) : Nat := t.asInt.toNat

def asList : Tree → List Tree
  | .array xs => xs
  | _ => []

/-- A double; a text may name one that is not finite. -/
def asDouble : Tree → Numeric.Binary
  | .number n => (n.toBinary? Numeric.double).getD .nan
  | .string (some "NaN") => .nan
  | .string (some "inf") => .infinite false
  | .string (some "-inf") => .infinite true
  | _ => .finite false 0 Numeric.double.minExponent

/-- The members whose names are texts, with their values as texts. -/
def asTexts : Tree → List (String × String)
  | .object ms => ms.filterMap fun m => m.1.map fun k => (k, m.2.asText)
  | _ => []

def text (t : Tree) (name : String) : String := (t.member name).asText
def text? (t : Tree) (name : String) : Option String := (t.given? name).map asText
def nat (t : Tree) (name : String) : Nat := (t.member name).asNat
def nat? (t : Tree) (name : String) : Option Nat := (t.given? name).map asNat
def list (t : Tree) (name : String) : List Tree := (t.member name).asList
def texts (t : Tree) (name : String) : List String := (t.list name).map asText
def word32 (t : Tree) (name : String) : UInt32 := UInt32.ofNat (t.nat name)

def flag (t : Tree) (name : String) : Bool :=
  match t.member name with
  | .bool b => b
  | _ => false

end CompletionGateway.Json.Tree
