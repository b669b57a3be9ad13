import CompletionGateway.Calendar
import CompletionGateway.Text.Blank

/-! Instants of universal time with nanoseconds. A leap second is the second before it with a fraction of
one or more. Instants are read from RFC 3339 texts, strictly or leniently, and printed in universal time. -/
namespace CompletionGateway

-- Powers are those of the core library, whatever else is imported.
attribute [local instance (2000)] instPowNat

structure Time where
  /-- Seconds from 1970-01-01T00:00:00Z. -/
  seconds : Int
  nanos : Nat
  deriving DecidableEq, Repr, Inhabited

namespace Time

def le (a b : Time) : Bool := a.seconds < b.seconds || (a.seconds = b.seconds && a.nanos ≤ b.nanos)

/-- The later of two instants. -/
def latest (a b : Time) : Time := if le a b then b else a

/-! ### Printing -/

/-- Decimal digits with zeros in front up to the width. -/
def padded (width n : Nat) : List Char :=
  let ds := Nat.toDigits 10 n
  List.replicate (width - ds.length) '0' ++ ds

/-- Four digits from year 0 to 9999, otherwise a sign and at least four digits. -/
def yearChars (y : Int) : List Char :=
  if 0 ≤ y ∧ y ≤ 9999 then padded 4 y.toNat
  else (if y < 0 then '-' else '+') :: padded 4 y.natAbs

/-- Date and time of day to the second. -/
def secondChars (t : Time) : List Char :=
  let d := Date.ofDays (t.seconds / 86400)
  let s := (t.seconds % 86400).toNat
  let leap := if 1000000000 ≤ t.nanos then 1 else 0
  yearChars d.year ++ '-' :: padded 2 d.month ++ '-' :: padded 2 d.day ++ 'T' :: padded 2 (s / 3600) ++
    ':' :: padded 2 (s / 60 % 60) ++ ':' :: padded 2 (s % 60 + leap)

/-- As many of 0, 3, 6 or 9 digits of fraction as are needed. -/
def fractionChars (nanos : Nat) : List Char :=
  if nanos = 0 then []
  else if nanos % 1000000 = 0 then '.' :: padded 3 (nanos / 1000000)
  else if nanos % 1000 = 0 then '.' :: padded 6 (nanos / 1000)
  else '.' :: padded 9 nanos

/-- The shortest text that keeps every digit. -/
def text (t : Time) : String :=
  String.ofList (t.secondChars ++ fractionChars (t.nanos % 1000000000) ++ ['Z'])

/-- The text with six digits of fraction, further ones being cut off. -/
def microText (t : Time) : String :=
  String.ofList (t.secondChars ++ '.' :: padded 6 (t.nanos % 1000000000 / 1000) ++ ['Z'])

/-! ### Reading -/

def digit? (c : Char) : Option Nat := if '0' ≤ c ∧ c ≤ '9' then some (c.toNat - 48) else none

/-- A natural number of at least `least` and at most `most` digits, and what follows. -/
def number? (least most : Nat) (cs : List Char) : Option (Nat × List Char) :=
  let ds := (cs.take most).takeWhile (digit? · |>.isSome)
  if ds.length < least then none
  else some (ds.foldl (fun n c => n * 10 + (c.toNat - 48)) 0, cs.drop ds.length)

def expect? (c : Char) : List Char → Option (List Char)
  | x :: rest => if x = c then some rest else none
  | [] => none

/-- The fraction behind a point: up to nine digits count, further ones are skipped. -/
def fraction? : List Char → Option (Nat × List Char)
  | '.' :: rest =>
    match number? 1 9 rest with
    | some (n, after) =>
      some (n * 10 ^ (9 - (rest.length - after.length)), after.dropWhile (digit? · |>.isSome))
    | none => none
  | cs => some (0, cs)

/-- Hours and minutes of an offset behind its sign, in seconds. -/
def offsetSize? (separator : List Char → Option (List Char)) (cs : List Char) : Option (Nat × List Char) :=
  match number? 2 2 cs with
  | none => none
  | some (h, rest) =>
    match separator rest with
    | none => none
    | some rest =>
      match number? 2 2 rest with
      | some (m, rest) => if m < 60 then some (h * 3600 + m * 60, rest) else none
      | none => none

/-- An offset from universal time in seconds. The minus sign may be a hyphen or U+2212. -/
def offset? (separator : List Char → Option (List Char)) : List Char → Option (Int × List Char)
  | c :: rest =>
    if c = 'Z' ∨ c = 'z' then some (0, rest)
    else if c = '+' then (offsetSize? separator rest).map fun r => ((r.1 : Int), r.2)
    else if c = '-' ∨ c = '\u2212' then (offsetSize? separator rest).map fun r => (-(r.1 : Int), r.2)
    else none
  | [] => none

/-- Years that instants may have. -/
def leastYear : Int := -262143
def greatestYear : Int := 262142

/-- A date and time of day as written, with the offset it is given in. -/
structure Written where
  year : Int
  month : Nat
  day : Nat
  hour : Nat
  minute : Nat
  second : Nat
  nanos : Nat
  offset : Int

/-- The instant of a written date and time, if there is one. Second 60 is a leap second. -/
def Written.toTime? (w : Written) : Option Time :=
  let d : Date := ⟨w.year, w.month, w.day⟩
  if leastYear ≤ w.year ∧ w.year ≤ greatestYear ∧ d.isValid ∧ w.hour < 24 ∧ w.minute < 60 ∧ w.second ≤ 60 ∧
      w.offset.natAbs < 86400 then
    let leap := w.second = 60
    let second := if leap then 59 else w.second
    let seconds := d.toDays * 86400 + w.hour * 3600 + w.minute * 60 + second - w.offset
    let year := (Date.ofDays (seconds / 86400)).year
    if leastYear ≤ year ∧ year ≤ greatestYear then
      some ⟨seconds, if leap then w.nanos + 1000000000 else w.nanos⟩
    else none
  else none

/-- The strict form: fixed widths, a `T`, `t` or space between date and time, and an offset with a colon. -/
def parseStrict? (s : String) : Option Time := do
  let (year, cs) ← number? 4 4 s.toList
  let cs ← expect? '-' cs
  let (month, cs) ← number? 2 2 cs
  let cs ← expect? '-' cs
  let (day, cs) ← number? 2 2 cs
  let cs ← match cs with
    | c :: rest => if c = 'T' ∨ c = 't' ∨ c = ' ' then some rest else none
    | [] => none
  let (hour, cs) ← number? 2 2 cs
  let cs ← expect? ':' cs
  let (minute, cs) ← number? 2 2 cs
  let cs ← expect? ':' cs
  let (second, cs) ← number? 2 2 cs
  let (nanos, cs) ← fraction? cs
  let (offset, cs) ← offset? (expect? ':') cs
  if cs.isEmpty then
    (Written.mk year month day hour minute second nanos offset).toTime?
  else none

/-- A year of up to four digits, or with a sign of any number of digits. -/
def year? : List Char → Option (Int × List Char)
  | '-' :: rest => (number? 1 rest.length rest).map fun r => (-(r.1 : Int), r.2)
  | '+' :: rest => (number? 1 rest.length rest).map fun r => ((r.1 : Int), r.2)
  | cs => (number? 1 4 cs).map fun r => ((r.1 : Int), r.2)

/-- White space, one or two digits, and what follows. -/
def looseNumber? (cs : List Char) : Option (Nat × List Char) := number? 1 2 (Text.trimStart cs)

def looseExpect? (c : Char) (cs : List Char) : Option (List Char) := expect? c (Text.trimStart cs)

def isUtcWord (cs : List Char) : Bool := (cs.take 3).map Char.toLower == ['u', 't', 'c']

/-- The lenient form: white space may stand before each part but the letter between date and time, numbers
may be short, the year may carry a sign, and the offset may be `UTC` or have other separators than one colon. -/
def parseLenient? (s : String) : Option Time := do
  let (year, cs) ← year? (Text.trimStart s.toList)
  let cs ← looseExpect? '-' cs
  let (month, cs) ← looseNumber? cs
  let cs ← looseExpect? '-' cs
  let (day, cs) ← looseNumber? cs
  let cs ← match cs with
    | c :: rest => if c = 'T' ∨ c = 't' ∨ c = ' ' then some rest else none
    | [] => none
  let (hour, cs) ← looseNumber? cs
  let cs ← looseExpect? ':' cs
  let (minute, cs) ← looseNumber? cs
  let cs ← looseExpect? ':' cs
  let (second, cs) ← looseNumber? cs
  let (nanos, cs) ← fraction? cs
  let cs := Text.trimStart cs
  let (offset, cs) ←
    if isUtcWord cs then some (0, cs.drop 3)
    else offset? (fun cs => some (cs.dropWhile fun c => c = ':' || Text.isBlank c)) cs
  if (Text.trimStart cs).isEmpty then
    (Written.mk year month day hour minute second nanos offset).toTime?
  else none

end Time
end CompletionGateway
