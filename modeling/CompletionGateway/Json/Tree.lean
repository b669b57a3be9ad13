import CompletionGateway.Json.Numeral
import CompletionGateway.Text.Utf8

/-! What a JSON text says before anything is made of it: numbers as written, members in order and with
repetitions, and strings that may turn out to be no text, namely those with a lone surrogate or ill-formed
bytes. Such a string is harmless where its value is not asked for. -/
namespace CompletionGateway.Json

inductive Tree where
  | null
  | bool (b : Bool)
  | number (n : Numeral)
  | string (s : Option String)
  | array (elements : List Tree)
  | object (members : List (Option String × Tree))
  deriving Repr, Inhabited

/-- One unit of a string literal: a byte that stands for itself, or the code unit of an escape. -/
inductive StringUnit where
  | byte (b : UInt8)
  | code (n : Nat)
  deriving DecidableEq, Repr

def hexValue? (b : UInt8) : Option Nat :=
  if 48 ≤ b && b ≤ 57 then some (b.toNat - 48)
  else if 97 ≤ b && b ≤ 102 then some (b.toNat - 87)
  else if 65 ≤ b && b ≤ 70 then some (b.toNat - 55)
  else none

def hexCode? (a b c d : UInt8) : Option Nat :=
  match hexValue? a, hexValue? b, hexValue? c, hexValue? d with
  | some a, some b, some c, some d => some (((a * 16 + b) * 16 + c) * 16 + d)
  | _, _, _, _ => none

/-- The code unit of a one-letter escape. -/
def shortEscape? (b : UInt8) : Option Nat :=
  if b = 34 || b = 92 || b = 47 then some b.toNat
  else if b = 98 then some 8
  else if b = 102 then some 12
  else if b = 110 then some 10
  else if b = 114 then some 13
  else if b = 116 then some 9
  else none

/-- The units of a string literal from behind its opening quote, and the bytes behind the closing one. -/
def stringUnits : List UInt8 → List StringUnit → Option (List StringUnit × List UInt8)
  | [], _ => none
  | 34 :: rest, acc => some (acc.reverse, rest)
  | 92 :: 117 :: a :: b :: c :: d :: rest, acc =>
    match hexCode? a b c d with
    | some n => stringUnits rest (.code n :: acc)
    | none => none
  | 92 :: x :: rest, acc =>
    match shortEscape? x with
    | some n => stringUnits rest (.code n :: acc)
    | none => none
  | b :: rest, acc => if b < 32 || b = 92 then none else stringUnits rest (.byte b :: acc)

/-- The bytes of the text so far in reverse, a high surrogate waiting for its partner, and whether all
surrogates so far were paired. -/
structure Assembly where
  bytes : List UInt8
  high : Option Nat
  paired : Bool

def Assembly.pushChar (a : Assembly) (n : Nat) : Assembly :=
  ⟨(String.utf8EncodeChar (Char.ofNat n)).reverse ++ a.bytes, none, a.paired⟩

def Assembly.push (a : Assembly) : StringUnit → Assembly
  | .byte b => ⟨b :: a.bytes, none, a.paired && a.high.isNone⟩
  | .code n =>
    if 0xDC00 ≤ n && n ≤ 0xDFFF then
      match a.high with
      | some h => a.pushChar (0x10000 + (h - 0xD800) * 1024 + (n - 0xDC00))
      | none => ⟨a.bytes, none, false⟩
    else
      let a : Assembly := ⟨a.bytes, none, a.paired && a.high.isNone⟩
      if 0xD800 ≤ n && n ≤ 0xDBFF then ⟨a.bytes, some n, a.paired⟩ else a.pushChar n

/-- The text that the units of a string literal spell, if they spell one. -/
def assemble (units : List StringUnit) : Option String :=
  let a := units.foldl Assembly.push ⟨[], none, true⟩
  if a.paired && a.high.isNone then Text.Utf8.decode? a.bytes.reverse else none

def isSpace (b : UInt8) : Bool := b = 32 || b = 9 || b = 10 || b = 13
def skipSpace (bytes : List UInt8) : List UInt8 := bytes.dropWhile isSpace
def isDigit (b : UInt8) : Bool := 48 ≤ b && b ≤ 57
def digitValues (bytes : List UInt8) : List Nat := (bytes.takeWhile isDigit).map (·.toNat - 48)
def skipDigits (bytes : List UInt8) : List UInt8 := bytes.dropWhile isDigit

/-- The exponent of a number, if an `e` starts one; `none` if it has no digits. -/
def exponentPart : List UInt8 → Option (Option (Bool × List Nat) × List UInt8)
  | b :: rest =>
    if b = 101 || b = 69 then
      let (negative, rest) :=
        match rest with
        | 43 :: r => (false, r)
        | 45 :: r => (true, r)
        | r => (false, r)
      let ds := digitValues rest
      if ds.isEmpty then none else some (some (negative, ds), skipDigits rest)
    else some (none, b :: rest)
  | [] => some (none, [])

/-- A number: no leading zeros, and a digit on either side of a point. -/
def numeral (bytes : List UInt8) : Option (Numeral × List UInt8) :=
  let (negative, bytes) := match bytes with
    | 45 :: r => (true, r)
    | r => (false, r)
  let whole := digitValues bytes
  let rest := skipDigits bytes
  if whole.isEmpty || (whole.head? = some 0 && 1 < whole.length) then none
  else
    match rest with
    | 46 :: rest =>
      let fraction := digitValues rest
      if fraction.isEmpty then none
      else (exponentPart (skipDigits rest)).map fun e => (⟨negative, whole, fraction, e.1⟩, e.2)
    | rest => (exponentPart rest).map fun e => (⟨negative, whole, [], e.1⟩, e.2)

namespace Tree

def word (text : List UInt8) (t : Tree) (bytes : List UInt8) : Option (Tree × List UInt8) :=
  if bytes.take text.length = text then some (t, bytes.drop text.length) else none

mutual

/-- A value at the front of the bytes, behind white space, and what follows it. -/
def value : Nat → List UInt8 → Option (Tree × List UInt8)
  | 0, _ => none
  | fuel + 1, bytes =>
    match skipSpace bytes with
    | [] => none
    | 34 :: rest => (stringUnits rest []).map fun r => (.string (assemble r.1), r.2)
    | 91 :: rest =>
      match skipSpace rest with
      | 93 :: rest => some (.array [], rest)
      | rest => (elements fuel rest).map fun r => (.array r.1, r.2)
    | 123 :: rest =>
      match skipSpace rest with
      | 125 :: rest => some (.object [], rest)
      | rest => (members fuel rest).map fun r => (.object r.1, r.2)
    | b :: rest =>
      if b = 110 then word [110, 117, 108, 108] .null (b :: rest)
      else if b = 116 then word [116, 114, 117, 101] (.bool true) (b :: rest)
      else if b = 102 then word [102, 97, 108, 115, 101] (.bool false) (b :: rest)
      else if b = 45 || isDigit b then (numeral (b :: rest)).map fun r => (.number r.1, r.2)
      else none

/-- The elements of an array from the first one to the closing bracket. -/
def elements : Nat → List UInt8 → Option (List Tree × List UInt8)
  | 0, _ => none
  | fuel + 1, bytes =>
    match value fuel bytes with
    | none => none
    | some (t, rest) =>
      match skipSpace rest with
      | 44 :: rest => (elements fuel rest).map fun r => (t :: r.1, r.2)
      | 93 :: rest => some ([t], rest)
      | _ => none

/-- The members of an object from the first one to the closing brace. -/
def members : Nat → List UInt8 → Option (List (Option String × Tree) × List UInt8)
  | 0, _ => none
  | fuel + 1, bytes =>
    match skipSpace bytes with
    | 34 :: rest =>
      match stringUnits rest [] with
      | none => none
      | some (units, rest) =>
        match skipSpace rest with
        | 58 :: rest =>
          match value fuel rest with
          | none => none
          | some (t, rest) =>
            match skipSpace rest with
            | 44 :: rest => (members fuel rest).map fun r => ((assemble units, t) :: r.1, r.2)
            | 125 :: rest => some ([(assemble units, t)], rest)
            | _ => none
        | _ => none
    | _ => none

end

/-- The one value a JSON text holds. Each level of nesting spends at most two units of fuel and takes at
least one byte. -/
def parse (bytes : List UInt8) : Option Tree :=
  match value (2 * bytes.length + 2) bytes with
  | some (t, rest) => if (skipSpace rest).isEmpty then some t else none
  | none => none

def ofText (s : String) : Option Tree := parse (Text.utf8 s)

end Tree
end CompletionGateway.Json
