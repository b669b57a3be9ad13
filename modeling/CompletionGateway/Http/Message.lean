import CompletionGateway.Address
import CompletionGateway.Text.Utf8

/-! Requests and responses. Header names are in lower case; a header may occur several times. -/
namespace CompletionGateway.Http

structure Request where
  method : String
  path : String
  query : Option String
  headers : List (String × List UInt8)
  body : List UInt8
  peer : Option Address
  deriving DecidableEq, Repr

/-- A request for a target, which is a path and, behind a question mark, a query. -/
def Request.ofTarget (method target : String) (headers : List (String × List UInt8)) (body : List UInt8)
    (peer : Option Address) : Request :=
  let path := target.toList.takeWhile (· != '?')
  let query := (target.toList.drop path.length).drop 1
  ⟨method, String.ofList path, if path.length < target.length then some (String.ofList query) else none, headers,
    body, peer⟩

/-- The first header of a name. -/
def Request.header? (r : Request) (name : String) : Option (List UInt8) :=
  (r.headers.find? (·.1 = name)).map (·.2)

def isVisible (b : UInt8) : Bool := (32 ≤ b && b < 127) || b = 9

/-- The value of a header as text, if it consists of visible ASCII characters, spaces and tabs. -/
def headerText? (value : List UInt8) : Option String :=
  if value.all isVisible then some (Text.Utf8.decodeLossy value) else none

/-- A byte that may stand in a header: no control character but the tab. -/
def isLegal (b : UInt8) : Bool := (32 ≤ b && b != 127) || b = 9

/-- The head of a response. -/
structure Head where
  status : Nat
  headers : List (String × String)
  deriving DecidableEq, Repr

namespace Head

/-- Set a header, in place of one of that name. -/
def set (h : Head) (name value : String) : Head :=
  ⟨h.status, h.headers.filter (·.1 ≠ name) ++ [(name, value)]⟩

def get? (h : Head) (name : String) : Option String := (h.headers.find? (·.1 = name)).map (·.2)

/-- Set a header unless it is set already. -/
def setDefault (h : Head) (name value : String) : Head :=
  if (h.get? name).isSome then h else h.set name value

end Head
end CompletionGateway.Http
