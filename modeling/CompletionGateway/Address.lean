/-! Internet addresses of both versions, their texts and the reading of them. -/
namespace CompletionGateway

-- Powers are those of the core library, whatever else is imported.
attribute [local instance (2000)] instPowNat

inductive Address where
  | v4 (bits : BitVec 32)
  | v6 (bits : BitVec 128)
  deriving DecidableEq, Repr

namespace Address

def octets (bits : BitVec 32) : List Nat := (List.range 4).map fun i => bits.toNat / 256 ^ (3 - i) % 256
def groups (bits : BitVec 128) : List Nat := (List.range 8).map fun i => bits.toNat / 65536 ^ (7 - i) % 65536

def ofOctets (os : List Nat) : BitVec 32 := BitVec.ofNat 32 (os.foldl (fun n o => n * 256 + o) 0)
def ofGroups (gs : List Nat) : BitVec 128 := BitVec.ofNat 128 (gs.foldl (fun n g => n * 65536 + g) 0)

def joined (separator : List Char) : List (List Char) → List Char
  | [] => []
  | [x] => x
  | x :: xs => x ++ separator ++ joined separator xs

def v4Chars (bits : BitVec 32) : List Char := joined ['.'] ((octets bits).map (Nat.toDigits 10))

/-- The number of zero groups from a place on. -/
def zeroRun (gs : List Nat) (i : Nat) : Nat := ((gs.drop i).takeWhile (· == 0)).length

/-- Place and length of the first longest run of zero groups. -/
def longestRun (gs : List Nat) : Nat × Nat :=
  (List.range gs.length).foldl (fun best i => if best.2 < zeroRun gs i then (i, zeroRun gs i) else best) (0, 0)

/-- The first longest run of two or more zero groups is written as two colons, and an address that maps
one of version 4 ends in the text of that one. -/
def v6Chars (bits : BitVec 128) : List Char :=
  let gs := groups bits
  if gs.take 6 = [0, 0, 0, 0, 0, 0xffff] then
    [':', ':', 'f', 'f', 'f', 'f', ':'] ++ v4Chars (BitVec.ofNat 32 bits.toNat)
  else
    let hex (xs : List Nat) := joined [':'] (xs.map (Nat.toDigits 16))
    let run := longestRun gs
    if 1 < run.2 then hex (gs.take run.1) ++ ':' :: ':' :: hex (gs.drop (run.1 + run.2)) else hex gs

def text : Address → String
  | .v4 bits => String.ofList (v4Chars bits)
  | .v6 bits => String.ofList (v6Chars bits)

def digitIn? (radix : Nat) (c : Char) : Option Nat :=
  let v :=
    if '0' ≤ c ∧ c ≤ '9' then c.toNat - 48
    else if 'a' ≤ c ∧ c ≤ 'f' then c.toNat - 87
    else if 'A' ≤ c ∧ c ≤ 'F' then c.toNat - 55
    else radix
  if v < radix then some v else none

/-- All digits at the front, at least one and at most `most`. -/
def number? (radix most : Nat) (leadingZeros : Bool) (cs : List Char) : Option (Nat × List Char) :=
  let ds := cs.takeWhile fun c => (digitIn? radix c).isSome
  if ds.isEmpty || most < ds.length || (!leadingZeros && ds.head? = some '0' && 1 < ds.length) then none
  else some (ds.foldl (fun n c => n * radix + (digitIn? radix c).getD 0) 0, cs.drop ds.length)

def octet? (cs : List Char) : Option (Nat × List Char) :=
  match number? 10 3 false cs with
  | some (n, rest) => if n < 256 then some (n, rest) else none
  | none => none

def dot? : List Char → Option (List Char)
  | '.' :: rest => some rest
  | _ => none

def readV4? (cs : List Char) : Option (BitVec 32 × List Char) := do
  let (a, cs) ← octet? cs
  let (b, cs) ← octet? (← dot? cs)
  let (c, cs) ← octet? (← dot? cs)
  let (d, cs) ← octet? (← dot? cs)
  some (ofOctets [a, b, c, d], cs)

/-- Behind the first group a colon comes before each. -/
def behindColon (first : Bool) (cs : List Char) : Option (List Char) :=
  if first then some cs
  else
    match cs with
    | ':' :: rest => some rest
    | _ => none

/-- Up to `room` groups; an address of version 4 may take the place of the last two. The flag tells
whether one did. -/
def readGroups : Nat → Bool → List Char → List Nat × Bool × List Char
  | 0, _, cs => ([], false, cs)
  | room + 1, first, cs =>
    match behindColon first cs with
    | none => ([], false, cs)
    | some rest =>
      match (if room = 0 then none else readV4? rest) with
      | some (bits, rest) => ([bits.toNat / 65536, bits.toNat % 65536], true, rest)
      | none =>
        match number? 16 4 true rest with
        | none => ([], false, cs)
        | some (g, rest) =>
          let r := readGroups room false rest
          (g :: r.1, r.2.1, r.2.2)

def readV6? (cs : List Char) : Option (BitVec 128 × List Char) :=
  let (head, embedded, rest) := readGroups 8 true cs
  if head.length = 8 then some (ofGroups head, rest)
  else if embedded then none
  else
    match rest with
    | ':' :: ':' :: rest =>
      let (tail, _, rest) := readGroups (7 - head.length) true rest
      some (ofGroups (head ++ List.replicate (8 - head.length - tail.length) 0 ++ tail), rest)
    | _ => none

def parse? (s : String) : Option Address :=
  match readV4? s.toList with
  | some (bits, []) => some (.v4 bits)
  | _ =>
    match readV6? s.toList with
    | some (bits, []) => some (.v6 bits)
    | _ => none

end Address
end CompletionGateway
