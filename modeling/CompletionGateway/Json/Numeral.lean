import CompletionGateway.Numeric.Decimal

/-! JSON numbers as written, and the value each has as a double.

The digits before the exponent are gathered into a 64-bit significand. Digits that do not fit any more
are dropped: before the point each dropped digit raises the decimal exponent, after it they have no effect.
The significand, rounded to a double, is then multiplied or divided by a power of ten, each step rounding. -/
namespace CompletionGateway.Json
open Numeric

-- Powers are those of the core library, whatever else is imported.
attribute [local instance (2000)] instPowNat

/-- A JSON number as it is written. An empty fraction stands for no point. -/
structure Numeral where
  negative : Bool
  whole : List Nat
  fraction : List Nat
  exponent : Option (Bool × List Nat)
  deriving DecidableEq, Repr, Inhabited

def wordLimit : Nat := 2 ^ (64 : Nat)
def digitsValue (ds : List Nat) : Nat := ds.foldl (fun n d => n * 10 + d) 0

namespace Numeral

/-- The written integer, if there is neither a fraction nor an exponent. -/
def integer? (n : Numeral) : Option Nat :=
  if n.fraction.isEmpty && n.exponent.isNone then some (digitsValue n.whole) else none

/-- A natural number below `bound`, written as an integer without a sign. -/
def natBelow? (bound : Nat) (n : Numeral) : Option Nat :=
  match n.integer? with
  | some v => if !n.negative && v < bound then some v else none
  | none => none

/-- A significand with the decimal exponent gathered so far. -/
structure Gathered where
  significand : Nat
  shift : Int
  full : Bool

def gatherWhole (g : Gathered) (d : Nat) : Gathered :=
  if g.full then ⟨g.significand, g.shift + 1, true⟩
  else if g.significand * 10 + d < wordLimit then ⟨g.significand * 10 + d, g.shift, false⟩
  else ⟨g.significand, g.shift + 1, true⟩

def gatherFraction (g : Gathered) (d : Nat) : Gathered :=
  if g.full then g
  else if g.significand * 10 + d < wordLimit then ⟨g.significand * 10 + d, g.shift - 1, false⟩
  else ⟨g.significand, g.shift, true⟩

def gather (n : Numeral) : Gathered :=
  let g := n.whole.foldl gatherWhole ⟨0, 0, false⟩
  n.fraction.foldl gatherFraction ⟨g.significand, g.shift, false⟩

/-- The magnitude of a double after scaling by a power of ten; `none` if it grows beyond all doubles. -/
def scale : Nat → Binary → Int → Option Binary
  | 0, v, _ => some v
  | n + 1, v, e =>
    match v with
    | .finite _ m x =>
      if e.natAbs ≤ 308 then
        match double.ofDecimal false 1 e.natAbs with
        | .finite _ m' x' =>
          if 0 ≤ e then
            match double.mulFinite false m x m' x' with
            | .infinite _ => none
            | r => some r
          else some (double.divFinite false m x m' x')
        | r => some r
      else if m = 0 then some v
      else if 0 ≤ e then none
      else
        match double.ofDecimal false 1 308 with
        | .finite _ m' x' => scale n (double.divFinite false m x m' x') (e + 308)
        | r => some r
    | _ => some v

def withSign (negative : Bool) : Binary → Binary
  | .finite _ m e => .finite negative m e
  | .infinite _ => .infinite negative
  | .nan => .nan

/-- Exponents of this size and beyond are not computed with. -/
def exponentLimit : Nat := 2 ^ (31 : Nat)

/-- The value of a number that is written with a fraction or exponent, or is too long for a word. -/
def toReal? (n : Numeral) : Option Binary :=
  let g := n.gather
  let magnitude :=
    match n.exponent with
    | none => scale 8 (double.round false g.significand 1) g.shift
    | some (negative, ds) =>
      let x := digitsValue ds
      if x < exponentLimit then
        scale 8 (double.round false g.significand 1) (if negative then g.shift - x else g.shift + x)
      else if g.significand ≠ 0 && !negative then none
      else some (.finite false 0 double.minExponent)
  magnitude.map (withSign n.negative)

/-- A number as a reader takes it: a 64-bit integer, signed or not, or else a double. -/
inductive Reading where
  | integer (i : Int)
  | real (b : Binary)
  deriving DecidableEq, Repr

/-- The reading of a number, `none` if it is too large for a double. A negative zero, and an integer that
no 64-bit word holds, are read as doubles. -/
def read? (n : Numeral) : Option Reading :=
  match n.integer? with
  | some v =>
    if !n.negative && v < wordLimit then some (.integer v)
    else if n.negative && 0 < v && v ≤ 2 ^ (63 : Nat) then some (.integer (-v))
    else n.toReal?.map .real
  | none => n.toReal?.map .real

/-- The number rounded to a format, a real being rounded to a double first. -/
def toBinary? (f : Format) (n : Numeral) : Option Binary :=
  n.read?.map fun
    | .integer i => f.ofInt i
    | .real b => f.convert b

/-- A numeral of a natural number. -/
def ofNat (n : Nat) : Numeral := ⟨false, (digitChars n).map (fun c => c.toNat - 48), [], none⟩

end Numeral
end CompletionGateway.Json
