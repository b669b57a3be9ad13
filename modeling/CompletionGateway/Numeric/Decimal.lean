import CompletionGateway.Numeric.Binary

/-! Decimal texts of binary floating-point numbers: the fewest digits that read back as the number, and
a fixed number of decimal places. -/
namespace CompletionGateway.Numeric

-- Powers are those of the core library, whatever else is imported.
attribute [local instance (2000)] instPowNat

/-- Which of two equally near decimals is taken. -/
inductive Tie where
  | up
  | even
  deriving DecidableEq, Repr

def digitChars (n : Nat) : List Char := Nat.toDigits 10 n
def digitCount (n : Nat) : Nat := (digitChars n).length

/-- The decimal number `digits * 10 ^ exponent`. -/
structure Decimal where
  digits : Nat
  exponent : Int
  deriving DecidableEq, Repr

namespace Decimal

/-- The power of ten just above `num / den`: `10 ^ (k - 1) ≤ num / den < 10 ^ k`. -/
def magnitude (num den : Nat) : Int :=
  if den ≤ num then (digitCount (num / den) : Int) else 1 - (digitCount ((den - 1) / num) : Int)

/-- A power as a quotient of naturals. -/
def power (base : Nat) (e : Int) : Nat × Nat :=
  if 0 ≤ e then (base ^ e.toNat, 1) else (1, base ^ (-e).toNat)

/-- The interval of reals that round to `m * 2 ^ e`, in units of `2 ^ (e - 2)`. -/
structure Neighbourhood where
  low : Nat
  middle : Nat
  high : Nat
  ends : Bool

def neighbourhood (f : Format) (m : Nat) (e : Int) : Neighbourhood :=
  let atPower := decide (m = 2 ^ (f.precision - 1)) && decide (f.minExponent < e)
  ⟨if atPower then 4 * m - 1 else 4 * m - 2, 4 * m, 4 * m + 2, m % 2 == 0⟩

/-- The decimal with `count` digits nearest to `m * 2 ^ e` among those that read back as that number. -/
def onGrid? (f : Format) (tie : Tie) (m : Nat) (e : Int) (count : Nat) : Option Decimal :=
  let v := power 2 e
  let g := magnitude (m * v.1) v.2 - count
  let ten := power 10 g
  let unit := power 2 (e - 2)
  let lhs := ten.1 * unit.2
  let rhs := unit.1 * ten.2
  let n := neighbourhood f m e
  let within (c : Nat) : Bool :=
    if n.ends then n.low * rhs ≤ c * lhs && c * lhs ≤ n.high * rhs
    else n.low * rhs < c * lhs && c * lhs < n.high * rhs
  let lo := n.middle * rhs / lhs
  let hi := lo + 1
  let below := n.middle * rhs - lo * lhs
  let above := hi * lhs - n.middle * rhs
  let preferHi : Bool :=
    if above = below then (match tie with | .up => true | .even => lo % 2 == 1) else decide (above < below)
  if within lo && 0 < lo then
    if within hi && preferHi then some ⟨hi, g⟩ else some ⟨lo, g⟩
  else if within hi then some ⟨hi, g⟩
  else none

/-- The same number without trailing zero digits. -/
def strip : Nat → Decimal → Decimal
  | 0, d => d
  | n + 1, d =>
    if d.digits ≠ 0 ∧ d.digits % 10 = 0 then strip n ⟨d.digits / 10, d.exponent + 1⟩ else d

/-- The fewest digits that read back as the positive number `m * 2 ^ e`, and of those the nearest. -/
def shortest (f : Format) (tie : Tie) (m : Nat) (e : Int) : Decimal :=
  match (List.range 17).findSome? fun i => onGrid? f tie m e (i + 1) with
  | some d => strip 20 d
  | none => ⟨m, 0⟩

/-- The exponent of the number written with one digit before the point. -/
def scientific (d : Decimal) : Int := (digitCount d.digits : Int) - 1 + d.exponent

/-- Digits before the point and digits after it. -/
def positional (d : Decimal) : List Char × List Char :=
  let cs := digitChars d.digits
  if 0 ≤ d.exponent then (cs ++ List.replicate d.exponent.toNat '0', [])
  else
    let places := (-d.exponent).toNat
    if places < cs.length then (cs.take (cs.length - places), cs.drop (cs.length - places))
    else (['0'], List.replicate (places - cs.length) '0' ++ cs)

end Decimal

def signText (negative : Bool) : String := if negative then "-" else ""

namespace Binary

/-- The plain text of a number: the fewest digits, no exponent, no point in an integer. -/
def plainText (f : Format) : Binary → String
  | .nan => "NaN"
  | .infinite s => signText s ++ "inf"
  | .finite s 0 _ => signText s ++ "0"
  | .finite s m e =>
    let p := (Decimal.shortest f .up m e).positional
    signText s ++ String.ofList (if p.2.isEmpty then p.1 else p.1 ++ '.' :: p.2)

/-- The text with two decimal places, the exact value being rounded and a half going to the even digit. -/
def twoPlaces : Binary → String
  | .nan => "NaN"
  | .infinite s => signText s ++ "inf"
  | .finite s m e =>
    let v := Decimal.power 2 e
    let hundredths := roundHalfEven (m * v.1 * 100) v.2
    let cents := hundredths % 100
    signText s ++ String.ofList
      (digitChars (hundredths / 100) ++ '.' :: digitChars (cents / 10) ++ digitChars (cents % 10))

end Binary

/-- How a notation chooses between positional and scientific form. -/
structure Layout where
  /-- Least and greatest scientific exponent that is written positionally. -/
  least : Int
  greatest : Int
  tie : Tie
  /-- Whether a positive exponent carries a sign. -/
  signedExponent : Bool

/-- The text of a nonzero magnitude: an integer written positionally ends in `.0`. -/
def Layout.text (l : Layout) (f : Format) (m : Nat) (e : Int) : String :=
  let d := Decimal.shortest f l.tie m e
  let x := d.scientific
  if l.least ≤ x ∧ x ≤ l.greatest then
    let p := d.positional
    String.ofList (p.1 ++ '.' :: (if p.2.isEmpty then ['0'] else p.2))
  else
    let cs := digitChars d.digits
    let head := cs.take 1
    let tail := cs.drop 1
    let power := if x < 0 then '-' :: digitChars x.natAbs
      else if l.signedExponent then '+' :: digitChars x.natAbs else digitChars x.natAbs
    String.ofList (head ++ (if tail.isEmpty then [] else '.' :: tail) ++ 'e' :: power)

end CompletionGateway.Numeric
