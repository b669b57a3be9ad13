import CompletionGateway.Calendar
import CompletionGateway.Numeric.Decimal
import CompletionGateway.Toml.Document

/-! Reading TOML documents, version 1.0. Every reader takes what it reads from the front of the characters and
returns it with the rest. -/
namespace CompletionGateway.Toml
open Numeric

-- Powers are those of the core library, whatever else is imported.
attribute [local instance (2000)] instPowNat

abbrev Reader (α : Type) := List Char → Option (α × List Char)

/-! ### Characters, spaces and lines -/

def isBlankChar (c : Char) : Bool := c = ' ' || c = '\t'
def skipBlanks (cs : List Char) : List Char := cs.dropWhile isBlankChar

def isDigit (c : Char) : Bool := '0' ≤ c && c ≤ '9'
def isBareKeyChar (c : Char) : Bool :=
  isDigit c || ('a' ≤ c && c ≤ 'z') || ('A' ≤ c && c ≤ 'Z') || c = '-' || c = '_'

/-- A character that may stand in a comment or string: no control character but the tab. -/
def isPlain (c : Char) : Bool := c = '\t' || (32 ≤ c.toNat && c.toNat ≠ 127)

def newline? : List Char → Option (List Char)
  | '\n' :: rest => some rest
  | '\r' :: '\n' :: rest => some rest
  | _ => none

/-- Blanks and a comment, up to the end of the line but not over it. -/
def skipToLineEnd (cs : List Char) : List Char :=
  match skipBlanks cs with
  | '#' :: rest => rest.dropWhile isPlain
  | rest => rest

/-- Nothing more on this line; what follows it. -/
def lineEnd? (cs : List Char) : Option (List Char) :=
  match skipToLineEnd cs with
  | [] => some []
  | rest => newline? rest

/-- Blanks, comments and line ends. The fuel bounds the number of lines. -/
def skipLines : Nat → List Char → List Char
  | 0, cs => cs
  | fuel + 1, cs =>
    let rest := skipToLineEnd cs
    match newline? rest with
    | some rest => skipLines fuel rest
    | none => rest

/-! ### Strings -/

def hexValue? (c : Char) : Option Nat :=
  if '0' ≤ c ∧ c ≤ '9' then some (c.toNat - 48)
  else if 'a' ≤ c ∧ c ≤ 'f' then some (c.toNat - 87)
  else if 'A' ≤ c ∧ c ≤ 'F' then some (c.toNat - 55)
  else none

/-- A character given by so many hexadecimal digits. -/
def codePoint (count : Nat) : Reader Char := fun cs =>
  match (cs.take count).mapM hexValue? with
  | none => none
  | some ds =>
    let n := ds.foldl (fun n d => n * 16 + d) 0
    if ds.length = count ∧ (n < 0xD800 ∨ (0xDFFF < n ∧ n < 0x110000)) then some (Char.ofNat n, cs.drop count)
    else none

/-- The character of an escape, behind its backslash. -/
def escape : Reader Char
  | 'b' :: rest => some (Char.ofNat 8, rest)
  | 't' :: rest => some ('\t', rest)
  | 'n' :: rest => some ('\n', rest)
  | 'f' :: rest => some (Char.ofNat 12, rest)
  | 'r' :: rest => some ('\r', rest)
  | '"' :: rest => some ('"', rest)
  | '\\' :: rest => some ('\\', rest)
  | 'u' :: rest => codePoint 4 rest
  | 'U' :: rest => codePoint 8 rest
  | _ => none

/-- A string between quotes, behind the opening one. -/
def basicString : Nat → List Char → Reader String
  | 0, _, _ => none
  | fuel + 1, acc, cs =>
    match cs with
    | '"' :: rest => some (String.ofList acc.reverse, rest)
    | '\\' :: rest =>
      match escape rest with
      | some (c, rest) => basicString fuel (c :: acc) rest
      | none => none
    | c :: rest => if isPlain c then basicString fuel (c :: acc) rest else none
    | [] => none

/-- A string between apostrophes, behind the opening one. -/
def literalString : Reader String := fun cs =>
  let body := cs.takeWhile fun c => isPlain c && c ≠ '\''
  match cs.drop body.length with
  | '\'' :: rest => some (String.ofList body, rest)
  | _ => none

/-- How many of a character stand in front, but at most five. -/
def runLength (c : Char) (cs : List Char) : Nat := ((cs.take 5).takeWhile (· == c)).length

/-- The line end behind opening quotes, which does not belong to the string. -/
def dropFirstNewline (cs : List Char) : List Char := (newline? cs).getD cs

/-- A backslash at the end of a line takes with it all blanks and line ends that follow. -/
def continuation? (cs : List Char) : Option (List Char) :=
  match newline? (skipBlanks cs) with
  | some rest => some (rest.dropWhile fun c => isBlankChar c || c = '\n' || c = '\r')
  | none => none

/-- A string of several lines between triple quotes, behind the opening ones. Up to two quotes may stand
before the closing ones. -/
def longString (quote : Char) (escapes : Bool) : Nat → List Char → Reader String
  | 0, _, _ => none
  | fuel + 1, acc, cs =>
    match cs with
    | [] => none
    | c :: rest =>
      if c = quote then
        let n := runLength quote cs
        if 3 ≤ n then some (String.ofList (acc.reverse ++ List.replicate (n - 3) quote), cs.drop n)
        else longString quote escapes fuel (c :: acc) rest
      else if escapes && c = '\\' then
        match continuation? rest with
        | some rest => longString quote escapes fuel acc rest
        | none =>
          match escape rest with
          | some (d, rest) => longString quote escapes fuel (d :: acc) rest
          | none => none
      else
        match newline? cs with
        | some rest => longString quote escapes fuel ('\n' :: acc) rest
        | none => if isPlain c then longString quote escapes fuel (c :: acc) rest else none

/-- A string on one line. -/
def shortString : Reader String
  | '"' :: rest => basicString (rest.length + 1) [] rest
  | '\'' :: rest => literalString rest
  | _ => none

def string : Reader String
  | '"' :: '"' :: '"' :: rest => longString '"' true (rest.length + 1) [] (dropFirstNewline rest)
  | '\'' :: '\'' :: '\'' :: rest => longString '\'' false (rest.length + 1) [] (dropFirstNewline rest)
  | cs => shortString cs

/-! ### Keys -/

def simpleKey : Reader String := fun cs =>
  match cs with
  | '"' :: _ => shortString cs
  | '\'' :: _ => shortString cs
  | _ =>
    let k := cs.takeWhile isBareKeyChar
    if k.isEmpty then none else some (String.ofList k, cs.drop k.length)

/-- Simple keys with points between them: those before the last, and the last. -/
def key : Nat → Reader (List String × String)
  | 0, _ => none
  | fuel + 1, cs =>
    match simpleKey cs with
    | none => none
    | some (k, rest) =>
      match skipBlanks rest with
      | '.' :: more =>
        match key fuel (skipBlanks more) with
        | some ((ks, last), rest) => some ((k :: ks, last), rest)
        | none => none
      | _ => some (([], k), rest)

/-! ### Numbers -/

/-- Digits with single underscores between them. -/
def digits (isDigit : Char → Bool) : Reader (List Char) := fun cs =>
  let run := cs.takeWhile fun c => isDigit c || c = '_'
  let ds := run.filter (· != '_')
  if run.head?.any isDigit && run.getLast?.any isDigit && !(run.zip (run.drop 1)).contains ('_', '_') then
    some (ds, cs.drop run.length)
  else none

def sign : List Char → Bool × List Char
  | '+' :: rest => (false, rest)
  | '-' :: rest => (true, rest)
  | cs => (false, cs)

def valueOf (radix : Nat) (ds : List Char) : Nat := ds.foldl (fun n c => n * radix + (hexValue? c).getD 0) 0

/-- Decimal digits without needless leading zeros. A leading zero stands alone. -/
def decimalDigits : Reader (List Char)
  | '0' :: rest => some (['0'], rest)
  | cs => digits isDigit cs

def inWord (i : Int) : Bool := -2 ^ (63 : Nat) ≤ i && i < 2 ^ (63 : Nat)

/-- An integer with a radix mark, which has no sign. -/
def radixInteger (radix : Nat) : Reader Value := fun cs =>
  match digits (fun c => (hexValue? c).any (· < radix)) cs with
  | some (ds, rest) =>
    let n : Int := valueOf radix ds
    if inWord n then some (.integer n, rest) else none
  | none => none

/-- The digits of an exponent with their sign, if an exponent follows. -/
def exponent : Reader (Option Int)
  | c :: rest =>
    if c = 'e' ∨ c = 'E' then
      let (negative, rest) := sign rest
      match digits isDigit rest with
      | some (ds, rest) =>
        let n : Int := valueOf 10 ds
        some (some (if negative then -n else n), rest)
      | none => none
    else some (none, c :: rest)
  | [] => some (none, [])

/-- The double nearest to a decimal. A positive one that is too large is no number. -/
def realOf? (negative : Bool) (whole fraction : List Char) (exp : Int) : Option Value :=
  match double.ofDecimal negative (valueOf 10 (whole ++ fraction)) (exp - fraction.length) with
  | .infinite false => none
  | b => some (.real b)

/-- A decimal integer, or a number with a fraction or exponent. -/
def decimalNumber (negative : Bool) : Reader Value := fun cs =>
  match decimalDigits cs with
  | none => none
  | some (whole, rest) =>
    match rest with
    | '.' :: rest =>
      match digits isDigit rest with
      | none => none
      | some (fraction, rest) =>
        match exponent rest with
        | some (e, rest) => (realOf? negative whole fraction (e.getD 0)).map fun v => (v, rest)
        | none => none
    | _ =>
      match exponent rest with
      | some (some e, rest) => (realOf? negative whole [] e).map fun v => (v, rest)
      | some (none, rest) =>
        let n : Int := if negative then -(valueOf 10 whole : Int) else valueOf 10 whole
        if inWord n then some (.integer n, rest) else none
      | none => none

def word (text : List Char) (v : Value) : Reader Value := fun cs =>
  if cs.take text.length = text then some (v, cs.drop text.length) else none

def signedNumber (cs : List Char) : Option (Value × List Char) :=
  let (negative, rest) := sign cs
  match rest with
  | 'i' :: _ => word ['i', 'n', 'f'] (.real (.infinite negative)) rest
  | 'n' :: _ => word ['n', 'a', 'n'] (.real .nan) rest
  | _ => decimalNumber negative rest

def number : Reader Value
  | '0' :: 'x' :: rest => radixInteger 16 rest
  | '0' :: 'o' :: rest => radixInteger 8 rest
  | '0' :: 'b' :: rest => radixInteger 2 rest
  | cs => signedNumber cs

/-! ### Dates and times -/

/-- Exactly so many digits, and their value. -/
def fixedDigits (count : Nat) : Reader Nat := fun cs =>
  let ds := cs.take count
  if ds.length = count ∧ ds.all isDigit then some (valueOf 10 ds, cs.drop count) else none

def expect (c : Char) : List Char → Option (List Char)
  | x :: rest => if x = c then some rest else none
  | [] => none

/-- A date, giving what follows it. -/
def date? (cs : List Char) : Option (List Char) := do
  let (y, cs) ← fixedDigits 4 cs
  let cs ← expect '-' cs
  let (m, cs) ← fixedDigits 2 cs
  let cs ← expect '-' cs
  let (d, cs) ← fixedDigits 2 cs
  if (Date.mk y m d).isValid then some cs else none

/-- A time of day. -/
def time? (cs : List Char) : Option (List Char) := do
  let (h, cs) ← fixedDigits 2 cs
  let cs ← expect ':' cs
  let (m, cs) ← fixedDigits 2 cs
  let cs ← expect ':' cs
  let (s, cs) ← fixedDigits 2 cs
  if h < 24 ∧ m < 60 ∧ s ≤ 60 then
    match cs with
    | '.' :: rest => if rest.head?.any isDigit then some (rest.dropWhile isDigit) else none
    | _ => some cs
  else none

/-- An offset from universal time. -/
def offset? (cs : List Char) : Option (List Char) :=
  match cs with
  | c :: rest =>
    if c = 'Z' ∨ c = 'z' then some rest
    else if c = '+' ∨ c = '-' then do
      let (h, cs) ← fixedDigits 2 rest
      let cs ← expect ':' cs
      let (m, cs) ← fixedDigits 2 cs
      if h < 24 ∧ m < 60 then some cs else none
    else none
  | [] => none

def startsTime (cs : List Char) : Bool := (cs.take 2).length = 2 && (cs.take 2).all isDigit && cs[2]? = some ':'
def startsDate (cs : List Char) : Bool := (cs.take 4).length = 4 && (cs.take 4).all isDigit && cs[4]? = some '-'

/-- What follows a date, a time or both. -/
def behindDatetime? (cs : List Char) : Option (List Char) :=
  if startsDate cs then
    match date? cs with
    | none => none
    | some rest =>
      match rest with
      | c :: more =>
        if (c = 'T' ∨ c = 't' ∨ c = ' ') ∧ startsTime more then
          match time? more with
          | some rest =>
            match rest with
            | '+' :: _ => offset? rest
            | '-' :: _ => offset? rest
            | _ => some ((offset? rest).getD rest)
          | none => none
        else some rest
      | [] => some []
  else time? cs

def datetime : Reader Value := fun cs =>
  (behindDatetime? cs).map fun rest => (.datetime (String.ofList (cs.take (cs.length - rest.length))), rest)

/-! ### Values -/

/-- Arrays and inline tables may stand inside each other up to this depth. -/
def maxDepth : Nat := 80

mutual

def value : Nat → Nat → Reader Value
  | 0, _, _ => none
  | fuel + 1, depth, cs =>
    match cs with
    | '"' :: _ => (string cs).map fun r => (.string r.1, r.2)
    | '\'' :: _ => (string cs).map fun r => (.string r.1, r.2)
    | '[' :: rest =>
      if depth + 1 < maxDepth then
        (elements fuel (depth + 1) (skipLines rest.length rest)).map fun r => (.array r.1, r.2)
      else none
    | '{' :: rest =>
      if depth + 1 < maxDepth then
        match skipBlanks rest with
        | '}' :: rest => some (.table [], rest)
        | rest => (pairs fuel (depth + 1) Table.root rest).map fun r => (r.1.toValue, r.2)
      else none
    | 't' :: _ => word ['t', 'r', 'u', 'e'] (.boolean true) cs
    | 'f' :: _ => word ['f', 'a', 'l', 's', 'e'] (.boolean false) cs
    | _ => if startsDate cs || startsTime cs then datetime cs else number cs

/-- Elements of an array to its closing bracket; a comma may follow the last one. -/
def elements : Nat → Nat → Reader (List Value)
  | 0, _, _ => none
  | fuel + 1, depth, cs =>
    match cs with
    | ']' :: rest => some ([], rest)
    | _ =>
      match value fuel depth cs with
      | none => none
      | some (v, rest) =>
        match skipLines rest.length rest with
        | ',' :: rest =>
          (elements fuel depth (skipLines rest.length rest)).map fun r => (v :: r.1, r.2)
        | ']' :: rest => some ([v], rest)
        | _ => none

/-- Keys and values of an inline table to its closing brace. -/
def pairs : Nat → Nat → Table → Reader Table
  | 0, _, _, _ => none
  | fuel + 1, depth, t, cs =>
    match key cs.length (skipBlanks cs) with
    | none => none
    | some ((path, k), rest) =>
      match skipBlanks rest with
      | '=' :: rest =>
        match value fuel depth (skipBlanks rest) with
        | none => none
        | some (v, rest) =>
          match t.assign path k v with
          | none => none
          | some t =>
            match skipBlanks rest with
            | ',' :: rest => pairs fuel depth t rest
            | '}' :: rest => some (t, rest)
            | _ => none
      | _ => none

end

/-! ### Lines -/

/-- A header behind its opening bracket. -/
def header (cs : List Char) : Option (Statement × List Char) :=
  match cs with
  | '[' :: rest =>
    match key rest.length (skipBlanks rest) with
    | some ((path, k), rest) =>
      match skipBlanks rest with
      | ']' :: ']' :: rest => some (.elementHeader path k, rest)
      | _ => none
    | none => none
  | _ =>
    match key cs.length (skipBlanks cs) with
    | some ((path, k), rest) =>
      match skipBlanks rest with
      | ']' :: rest => some (.header path k, rest)
      | _ => none
    | none => none

/-- A key and its value. -/
def assignment (cs : List Char) : Option (Statement × List Char) :=
  match key (cs.length + 1) cs with
  | some ((path, k), rest) =>
    match skipBlanks rest with
    | '=' :: rest => (value (2 * rest.length + 2) 0 (skipBlanks rest)).map fun r => (.assignment path k r.1, r.2)
    | _ => none
  | none => none

/-- The statements of a document. The fuel bounds the number of lines. -/
def statements : Nat → List Statement → List Char → Option (List Statement)
  | 0, _, _ => none
  | fuel + 1, acc, cs =>
    match skipBlanks cs with
    | [] => some acc.reverse
    | '#' :: rest =>
      match lineEnd? ('#' :: rest) with
      | some rest => statements fuel acc rest
      | none => none
    | '\n' :: rest => statements fuel acc rest
    | '\r' :: rest =>
      match rest with
      | '\n' :: rest => statements fuel acc rest
      | _ => none
    | '[' :: rest =>
      match header rest with
      | some (s, rest) =>
        match lineEnd? rest with
        | some rest => statements fuel (s :: acc) rest
        | none => none
      | none => none
    | cs =>
      match assignment cs with
      | some (s, rest) =>
        match lineEnd? rest with
        | some rest => statements fuel (s :: acc) rest
        | none => none
      | none => none

/-- The mark that some editors put at the front of a text. -/
def dropMark : List Char → List Char
  | '\ufeff' :: rest => rest
  | cs => cs

/-- The table that a document is. -/
def parse? (s : String) : Option Value :=
  let cs := dropMark s.toList
  (statements (cs.length + 1) [] cs).bind build

end CompletionGateway.Toml
