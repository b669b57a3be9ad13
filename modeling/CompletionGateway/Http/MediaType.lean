import CompletionGateway.Http.Message

/-! Media types, as far as it takes to tell whether one is JSON: the grammar of type, subtype with suffix,
and parameters. -/
namespace CompletionGateway.Http.MediaType

def isTokenChar (c : Char) : Bool :=
  ('a' ≤ c && c ≤ 'z') || ('A' ≤ c && c ≤ 'Z') || ('0' ≤ c && c ≤ '9') ||
    ['!', '#', '$', '%', '&', '\'', '*', '+', '-', '.', '^', '_', Char.ofNat 96, '|', '~'].contains c

/-- What may stand inside a quoted parameter value. -/
def isQuotedChar (c : Char) : Bool := 31 < c.toNat && c.toNat ≠ 127

/-- What follows a quoted value, given from behind its opening quote. The value is not empty, so a quote
that comes first belongs to it. -/
def afterQuoted? : List Char → Option (List Char)
  | c :: rest =>
    if isQuotedChar c then
      match rest.dropWhile fun c => isQuotedChar c && c != '"' with
      | '"' :: rest => some rest
      | _ => none
    else none
  | [] => none

def takeToken (cs : List Char) : List Char × List Char := (cs.takeWhile isTokenChar, cs.dropWhile isTokenChar)

/-- Behind a quoted value: spaces, and then the end or the next parameter. -/
def behindQuoted? (cs : List Char) : Option (List Char) :=
  match cs.dropWhile (· == ' ') with
  | [] => some []
  | ';' :: rest => some rest
  | _ => none

/-- One parameter, whose value is not empty; the result is what follows its semicolon. -/
def parameter? (cs : List Char) : Option (List Char) :=
  let (name, rest) := takeToken cs
  if name.isEmpty then none
  else
    match rest with
    | '=' :: '"' :: rest => (afterQuoted? rest).bind behindQuoted?
    | '=' :: rest =>
      match takeToken rest with
      | (_, []) => some []
      | (value, ';' :: rest) => if value.isEmpty then none else some rest
      | _ => none
    | _ => none

/-- Parameters to the end, each behind any spaces. The fuel bounds their number. -/
def parameters : Nat → List Char → Bool
  | 0, _ => false
  | fuel + 1, cs =>
    match cs.dropWhile (· == ' ') with
    | [] => true
    | cs =>
      match parameter? cs with
      | some rest => parameters fuel rest
      | none => false

/-- Type and subtype of a well-formed media type, in lower case. -/
def parse? (s : String) : Option (List Char × List Char) :=
  let (kind, rest) := takeToken s.toList
  match rest with
  | '/' :: rest =>
    let (subtype, rest) := takeToken rest
    if kind.isEmpty then none
    else
      let wellFormed := match rest with
        | [] => true
        | ';' :: rest => !subtype.isEmpty && parameters (rest.length + 1) rest
        | _ => false
      if wellFormed then some (kind.map Char.toLower, subtype.map Char.toLower) else none
  | _ => none

/-- Subtype and suffix: what stands before and behind the last plus sign that is not the first character. -/
def splitSuffix (subtype : List Char) : List Char × Option (List Char) :=
  let behind := (subtype.reverse.takeWhile (· != '+')).reverse
  let before := subtype.take (subtype.length - behind.length - 1)
  if behind.length = subtype.length || before.isEmpty then (subtype, none) else (before, some behind)

def json : List Char := ['j', 's', 'o', 'n']

/-- `application/json`, or another application type with the suffix `json`. -/
def isJson (s : String) : Bool :=
  match parse? s with
  | some (kind, subtype) =>
    let (base, suffix) := splitSuffix subtype
    kind == "application".toList && (base == json || suffix == some json)
  | none => false

end CompletionGateway.Http.MediaType
