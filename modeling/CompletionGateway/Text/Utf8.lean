/-! UTF-8. A text is encoded scalar by scalar; a byte sequence is read as a sequence of scalars and of
ill-formed parts, an ill-formed part being a longest run of bytes that begins a scalar without
completing it, or one byte that begins none. -/
namespace CompletionGateway.Text

/-- The UTF-8 bytes of a text. -/
def utf8 (s : String) : List UInt8 := s.toList.flatMap String.utf8EncodeChar

namespace Utf8

/-- What stands at the front of a byte sequence, with the number of bytes it takes after the first. -/
inductive Front where
  | scalar (c : Char) (more : Nat)
  | illFormed (more : Nat)
  deriving DecidableEq, Repr

def isTail (b : UInt8) : Bool := 0x80 ≤ b && b ≤ 0xBF

/-- The range of the second byte of a three-byte sequence, which excludes overlong forms and surrogates. -/
def isSecondOfThree (a b : UInt8) : Bool :=
  if a = 0xE0 then 0xA0 ≤ b && b ≤ 0xBF
  else if a = 0xED then 0x80 ≤ b && b ≤ 0x9F
  else isTail b

/-- The range of the second byte of a four-byte sequence, which excludes overlong forms and values
above U+10FFFF. -/
def isSecondOfFour (a b : UInt8) : Bool :=
  if a = 0xF0 then 0x90 ≤ b && b ≤ 0xBF
  else if a = 0xF4 then 0x80 ≤ b && b ≤ 0x8F
  else isTail b

def tailBits (b : UInt8) : Nat := b.toNat % 64

def front (a : UInt8) (rest : List UInt8) : Front :=
  if a < 0x80 then .scalar (Char.ofNat a.toNat) 0
  else if a < 0xC2 then .illFormed 0
  else if a < 0xE0 then
    match rest with
    | b :: _ =>
      if isTail b then .scalar (Char.ofNat (a.toNat % 32 * 64 + tailBits b)) 1 else .illFormed 0
    | [] => .illFormed 0
  else if a < 0xF0 then
    match rest with
    | b :: rest =>
      if isSecondOfThree a b then
        match rest with
        | c :: _ =>
          if isTail c then
            .scalar (Char.ofNat (a.toNat % 16 * 4096 + tailBits b * 64 + tailBits c)) 2
          else .illFormed 1
        | [] => .illFormed 1
      else .illFormed 0
    | [] => .illFormed 0
  else if a < 0xF5 then
    match rest with
    | b :: rest =>
      if isSecondOfFour a b then
        match rest with
        | c :: rest =>
          if isTail c then
            match rest with
            | d :: _ =>
              if isTail d then
                .scalar (Char.ofNat
                  (a.toNat % 8 * 262144 + tailBits b * 4096 + tailBits c * 64 + tailBits d)) 3
              else .illFormed 2
            | [] => .illFormed 2
          else .illFormed 1
        | [] => .illFormed 1
      else .illFormed 0
    | [] => .illFormed 0
  else .illFormed 0

/-- The scalars of a byte sequence in order, `none` standing for an ill-formed part. -/
def scan (bytes : List UInt8) : List (Option Char) := go bytes []
where
  go : List UInt8 → List (Option Char) → List (Option Char)
    | [], acc => acc.reverse
    | a :: rest, acc =>
      match front a rest with
      | .scalar c n => go (rest.drop n) (some c :: acc)
      | .illFormed n => go (rest.drop n) (none :: acc)
  termination_by bytes => bytes.length
  decreasing_by all_goals simp only [List.length_cons, List.length_drop]; omega

/-- The text of a byte sequence, with U+FFFD for each ill-formed part. -/
def decodeLossy (bytes : List UInt8) : String :=
  String.ofList ((scan bytes).map (·.getD '\uFFFD'))

/-- The text of a well-formed byte sequence. -/
def decode? (bytes : List UInt8) : Option String :=
  let scalars := scan bytes
  if scalars.all Option.isSome then some (String.ofList (scalars.map (·.getD '\uFFFD'))) else none

end Utf8
end CompletionGateway.Text
