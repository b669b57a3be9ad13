import CompletionGateway.Json.Tree

/-! Percent encoding of paths, and the fields of a query. -/
namespace CompletionGateway.Http

/-- Bytes with each percent sign and two hexadecimal digits replaced by the byte they name. Other percent
signs stand for themselves. -/
def percentDecode : List UInt8 → List UInt8
  | 37 :: a :: b :: rest =>
    match Json.hexValue? a, Json.hexValue? b with
    | some x, some y => UInt8.ofNat (x * 16 + y) :: percentDecode rest
    | _, _ => 37 :: percentDecode (a :: b :: rest)
  | c :: rest => c :: percentDecode rest
  | [] => []

/-- The parts between separators. -/
def splitAt {α : Type} [DecidableEq α] (separator : α) : List α → List (List α)
  | [] => [[]]
  | x :: xs =>
    match splitAt separator xs with
    | [] => [[]]
    | p :: ps => if x = separator then [] :: p :: ps else (x :: p) :: ps

/-- The text of a name or value in a query, where a plus sign stands for a space. -/
def queryText (bytes : List UInt8) : String :=
  Text.Utf8.decodeLossy (percentDecode (bytes.map fun b => if b = 43 then 32 else b))

/-- Names and values of a query in order. -/
def queryFields (query : String) : List (String × String) :=
  ((splitAt 38 (Text.utf8 query)).filter (!·.isEmpty)).map fun part =>
    (queryText (part.takeWhile (· != 61)), queryText ((part.dropWhile (· != 61)).drop 1))

end CompletionGateway.Http
