import CompletionGateway.Json.Value

/-! Reading records from JSON. A record is written as an object, whose unknown members are ignored and
whose known ones may occur once, or as the array of its fields in order. A field with a default may be
missing, but `null` is a value only of an optional field. -/
namespace CompletionGateway.Json
open Numeric

-- Powers are those of the core library, whatever else is imported.
attribute [local instance (2000)] instPowNat

abbrev Decoder (α : Type) := Tree → Option α

namespace Decode

def text : Decoder String
  | .string s => s
  | _ => none

def bool : Decoder Bool
  | .bool b => some b
  | _ => none

/-- A natural number below `bound`, written without sign, fraction or exponent. -/
def natBelow (bound : Nat) : Decoder Nat
  | .number n => n.natBelow? bound
  | _ => none

def word32 : Decoder Nat := natBelow (2 ^ (32 : Nat))

def real (f : Format) : Decoder Binary
  | .number n => n.toBinary? f
  | _ => none

def optional {α : Type} (d : Decoder α) : Decoder (Option α)
  | .null => some none
  | t => (d t).map some

def listOf {α : Type} (d : Decoder α) : Decoder (List α)
  | .array xs => xs.mapM d
  | _ => none

/-- The members of an object whose names are among `names`, by their places there; `none` if a name is no
text or a known name occurs twice. -/
def knownMembers (names : List String) : List (Option String × Tree) → Option (List (Nat × Tree))
  | [] => some []
  | (none, _) :: _ => none
  | (some k, t) :: ms =>
    match knownMembers names ms with
    | none => none
    | some found =>
      match names.idxOf? k with
      | none => some found
      | some i => if found.any (·.1 == i) then none else some ((i, t) :: found)

/-- The fields of a record, each found or missing. -/
def fields (names : List String) : Tree → Option (List (Option Tree))
  | .object ms => (knownMembers names ms).map fun found =>
      (List.range names.length).map fun i => (found.find? (·.1 == i)).map (·.2)
  | .array xs =>
    if xs.length ≤ names.length then
      some ((List.range names.length).map fun i => xs[i]?)
    else none
  | _ => none

/-- The field at a place of a record, as `fields` found it. -/
def at? (found : List (Option Tree)) (i : Nat) : Option Tree := (found[i]?).join

def required {α : Type} (d : Decoder α) (found : List (Option Tree)) (i : Nat) : Option α :=
  match at? found i with
  | some t => d t
  | none => none

def withDefault {α : Type} (d : Decoder α) (default : α) (found : List (Option Tree)) (i : Nat) :
    Option α :=
  match at? found i with
  | some t => d t
  | none => some default

/-- A field that may be missing or `null`. -/
def maybe {α : Type} (d : Decoder α) (found : List (Option Tree)) (i : Nat) : Option (Option α) :=
  withDefault (optional d) none found i

end Decode

/-- Read a record from the bytes of a JSON text. -/
def decodeBytes {α : Type} (d : Decoder α) (bytes : List UInt8) : Option α := (Tree.parse bytes).bind d

/-- Read a record from a JSON text. -/
def decodeText {α : Type} (d : Decoder α) (s : String) : Option α := decodeBytes d (Text.utf8 s)

end CompletionGateway.Json
