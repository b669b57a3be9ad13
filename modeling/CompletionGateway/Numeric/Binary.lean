/-! Binary floating-point numbers by value: a sign, a natural mantissa and a power of two. Every operation
is the exact rational result rounded to the nearest number of a format, a tie going to the even mantissa. -/
namespace CompletionGateway.Numeric

-- Powers are those of the core library, whatever else is imported.
attribute [local instance (2000)] instPowNat

/-- A format keeps `precision` bits and gives its numbers exponents from `minExponent` to `maxExponent`. -/
structure Format where
  precision : Nat
  minExponent : Int
  maxExponent : Int
  deriving DecidableEq, Repr

def single : Format := ⟨24, -149, 104⟩
def double : Format := ⟨53, -1074, 971⟩

/-- The finite number is `± mantissa * 2 ^ exponent`. -/
inductive Binary where
  | nan
  | infinite (negative : Bool)
  | finite (negative : Bool) (mantissa : Nat) (exponent : Int)
  deriving DecidableEq, Repr

instance : Inhabited Binary := ⟨.finite false 0 0⟩

/-- The integer nearest to `num / den`, of two equally near the even one. -/
def roundHalfEven (num den : Nat) : Nat :=
  let q := num / den
  let r := num % den
  if 2 * r < den then q else if den < 2 * r then q + 1 else q + q % 2

/-- The quotient `num / den` divided by `2 ^ e`. -/
def scaleDown (num den : Nat) (e : Int) : Nat × Nat :=
  if 0 ≤ e then (num, den * 2 ^ e.toNat) else (num * 2 ^ (-e).toNat, den)

namespace Format

/-- The exponent at which `num / den` has a mantissa of full precision, but not below the least one. -/
def exponentFor (f : Format) (num den : Nat) : Int :=
  let e : Int := (num.log2 : Int) - den.log2 - f.precision
  let s := scaleDown num den e
  max f.minExponent (if 2 ^ f.precision ≤ s.1 / s.2 then e + 1 else e)

/-- The number of the format nearest to `± num / den`. -/
def round (f : Format) (negative : Bool) (num den : Nat) : Binary :=
  if num = 0 then .finite negative 0 f.minExponent
  else
    let e := f.exponentFor num den
    let s := scaleDown num den e
    let m := roundHalfEven s.1 s.2
    let carried := decide (m = 2 ^ f.precision)
    let m := if carried then 2 ^ (f.precision - 1) else m
    let e := if carried then e + 1 else e
    if f.maxExponent < e then .infinite negative else .finite negative m e

def ofInt (f : Format) (i : Int) : Binary := f.round (decide (i < 0)) i.natAbs 1

/-- The number nearest to `± digits * 10 ^ exponent`. Exponents so large or small that the result is
certainly infinite or zero are answered without computing the power. -/
def ofDecimal (f : Format) (negative : Bool) (digits : Nat) (exponent : Int) : Binary :=
  if digits = 0 then .finite negative 0 f.minExponent
  else if 400 < exponent then .infinite negative
  else if exponent + (digits.log2 : Int) < -500 then .finite negative 0 f.minExponent
  else if 0 ≤ exponent then f.round negative (digits * 10 ^ exponent.toNat) 1
  else f.round negative digits (10 ^ (-exponent).toNat)

/-- The number of this format nearest to a number of another. -/
def convert (f : Format) : Binary → Binary
  | .nan => .nan
  | .infinite s => .infinite s
  | .finite s m e => if 0 ≤ e then f.round s (m * 2 ^ e.toNat) 1 else f.round s m (2 ^ (-e).toNat)

/-- The rounded product of two finite numbers' magnitudes with the sign of the product. -/
def mulFinite (f : Format) (s : Bool) (m : Nat) (e : Int) (m' : Nat) (e' : Int) : Binary :=
  let p := e + e'
  if 0 ≤ p then f.round s (m * m' * 2 ^ p.toNat) 1 else f.round s (m * m') (2 ^ (-p).toNat)

/-- The rounded quotient of two finite numbers' magnitudes, the divisor not being zero. -/
def divFinite (f : Format) (s : Bool) (m : Nat) (e : Int) (m' : Nat) (e' : Int) : Binary :=
  let p := e - e'
  if 0 ≤ p then f.round s (m * 2 ^ p.toNat) m' else f.round s m (m' * 2 ^ (-p).toNat)

end Format

namespace Binary

/-- Neither a NaN nor an infinity. -/
def isFinite : Binary → Bool
  | .finite .. => true
  | _ => false

/-- Above zero. -/
def isPositive : Binary → Bool
  | .finite false (_ + 1) _ => true
  | .infinite false => true
  | _ => false

/-- The value lies between 0 and `n`, ends included; a NaN lies nowhere and a negative zero is zero. -/
def isBetweenZeroAnd (n : Nat) : Binary → Bool
  | .finite _ 0 _ => true
  | .finite false m e => if 0 ≤ e then m * 2 ^ e.toNat ≤ n else m ≤ n * 2 ^ (-e).toNat
  | _ => false

end Binary
end CompletionGateway.Numeric
