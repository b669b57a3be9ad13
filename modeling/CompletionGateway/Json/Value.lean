import CompletionGateway.Json.Tree

/-! JSON values and their compact text: no white space, members in the order given, `\u` escapes only for
control characters that have no letter, the fewest digits for a floating-point number and `null` for one
that is not finite. -/
namespace CompletionGateway
open Numeric

inductive Json where
  | null
  | bool (b : Bool)
  | integer (i : Int)
  | real (f : Format) (b : Binary)
  | string (s : String)
  | array (elements : List Json)
  | object (members : List (String × Json))
  deriving Inhabited

namespace Json

/-- Doubles are written positionally from 0.00001 to below 10 ^ 16. -/
def doubleLayout : Layout := ⟨-5, 15, .even, true⟩

/-- Single-precision numbers are written positionally from 0.000001 to below 10 ^ 13. -/
def singleLayout : Layout := ⟨-6, 12, .even, true⟩

def realText (f : Format) : Binary → String
  | .finite s 0 _ => signText s ++ "0.0"
  | .finite s m e => signText s ++ (if f = single then singleLayout else doubleLayout).text f m e
  | _ => "null"

def integerText (i : Int) : List Char :=
  if i < 0 then '-' :: digitChars i.natAbs else digitChars i.natAbs

def hexDigitChar (n : Nat) : Char := (Nat.toDigits 16 n).headD '0'

/-- A character inside a string literal. -/
def escapeChar (c : Char) : List Char :=
  if c = '"' then ['\\', '"']
  else if c = '\\' then ['\\', '\\']
  else if c.toNat = 8 then ['\\', 'b']
  else if c.toNat = 9 then ['\\', 't']
  else if c.toNat = 10 then ['\\', 'n']
  else if c.toNat = 12 then ['\\', 'f']
  else if c.toNat = 13 then ['\\', 'r']
  else if c.toNat < 32 then
    ['\\', 'u', '0', '0', hexDigitChar (c.toNat / 16), hexDigitChar (c.toNat % 16)]
  else [c]

def stringChars (s : String) : List Char := '"' :: (s.toList.flatMap escapeChar ++ ['"'])

mutual

def chars : Json → List Char
  | .null => ['n', 'u', 'l', 'l']
  | .bool true => ['t', 'r', 'u', 'e']
  | .bool false => ['f', 'a', 'l', 's', 'e']
  | .integer i => integerText i
  | .real f b => (realText f b).toList
  | .string s => stringChars s
  | .array [] => ['[', ']']
  | .array (x :: xs) => '[' :: (chars x ++ elementChars xs)
  | .object [] => ['{', '}']
  | .object ((k, v) :: ms) => '{' :: (stringChars k ++ ':' :: (chars v ++ memberChars ms))

def elementChars : List Json → List Char
  | [] => [']']
  | x :: xs => ',' :: (chars x ++ elementChars xs)

def memberChars : List (String × Json) → List Char
  | [] => ['}']
  | (k, v) :: ms => ',' :: (stringChars k ++ ':' :: (chars v ++ memberChars ms))

end

/-- The compact text. -/
def text (j : Json) : String := String.ofList j.chars

/-- A value that is present or `null`. -/
def ofOption {α : Type} (f : α → Json) : Option α → Json
  | some a => f a
  | none => .null

/-- The member of an optional field, which is left out when the field is absent. -/
def field? {α : Type} (name : String) (f : α → Json) : Option α → List (String × Json)
  | some a => [(name, f a)]
  | none => []

/-- An integer value from a natural number. -/
def nat (n : Nat) : Json := .integer n

/-- Put a member at its place in the order of names, replacing one of the same name. -/
def insertMember (k : String) (v : Json) : List (String × Json) → List (String × Json)
  | [] => [(k, v)]
  | (k', v') :: ms =>
    if k = k' then (k, v) :: ms
    else if k < k' then (k, v) :: (k', v') :: ms
    else (k', v') :: insertMember k v ms

/-- Members in the order of their names, the last of several with one name. -/
def sortMembers (ms : List (String × Json)) : List (String × Json) :=
  ms.foldl (fun acc m => insertMember m.1 m.2 acc) []

mutual

/-- The same value with the members of every object in the order of their names. -/
def sorted : Json → Json
  | .array xs => .array (sortedElements xs)
  | .object ms => .object (sortMembers (sortedMembers ms))
  | j => j

def sortedElements : List Json → List Json
  | [] => []
  | x :: xs => sorted x :: sortedElements xs

def sortedMembers : List (String × Json) → List (String × Json)
  | [] => []
  | (k, v) :: ms => (k, sorted v) :: sortedMembers ms

end

/-- Arrays and objects may stand inside each other up to this depth when a value is read as such. -/
def maxDepth : Nat := 127

mutual

/-- The value of a parsed text, at most `depth` levels deep: members are sorted, the last of several with
one name counts, every string must be text and every number representable. -/
def ofTree : Nat → Tree → Option Json
  | _, .null => some .null
  | _, .bool b => some (.bool b)
  | _, .number n =>
    n.read?.map fun
      | .integer i => .integer i
      | .real b => .real double b
  | _, .string s => s.map .string
  | 0, _ => none
  | depth + 1, .array xs => (ofElements depth xs).map .array
  | depth + 1, .object ms => (ofMembers depth ms).map fun ms => .object (sortMembers ms)

def ofElements : Nat → List Tree → Option (List Json)
  | _, [] => some []
  | depth, x :: xs =>
    match ofTree depth x, ofElements depth xs with
    | some v, some vs => some (v :: vs)
    | _, _ => none

def ofMembers : Nat → List (Option String × Tree) → Option (List (String × Json))
  | _, [] => some []
  | depth, (k, x) :: ms =>
    match k, ofTree depth x, ofMembers depth ms with
    | some k, some v, some vs => some ((k, v) :: vs)
    | _, _, _ => none

end

/-- The value that a JSON text denotes. -/
def ofBytes? (bytes : List UInt8) : Option Json := (Tree.parse bytes).bind (ofTree maxDepth)

end Json
end CompletionGateway
