import CompletionGateway.Digest
import CompletionGateway.Numeric.Decimal
import CompletionGateway.Text.Utf8

/-! Fingerprints: what makes two inquiries ask the same thing of the cache. Everything that changes the
answer is hashed: caller, model, prompt, temperature to two decimals and token budget. Each field comes
behind its length, so that no two different tuples of fields have one preimage. -/
namespace CompletionGateway.Cache

/-- What an answer depends on. -/
structure Inquiry where
  principal : String
  model : String
  prompt : String
  temperature : Numeric.Binary
  maxTokens : UInt32
  deriving DecidableEq, Repr

/-- A field behind the eight bytes of its length. -/
def framed (field : List UInt8) : List UInt8 := Digest.bigEndian 8 field.length ++ field

namespace Inquiry

def fields (q : Inquiry) : List String :=
  [q.principal, q.model, q.prompt, q.temperature.twoPlaces, toString q.maxTokens.toNat]

/-- The bytes that are hashed. -/
def preimage (q : Inquiry) : List UInt8 := q.fields.flatMap fun f => framed (Text.utf8 f)

end Inquiry

structure Fingerprint where
  /-- Lower-case hexadecimal digits. -/
  digest : String
  deriving DecidableEq, Repr

def Inquiry.fingerprint (q : Inquiry) : Fingerprint :=
  ⟨String.ofList (Digest.hex (Digest.sha256 q.preimage))⟩

/-- The key under which the cache keeps the answer. -/
def Fingerprint.key (f : Fingerprint) : String := "cache:inference:" ++ f.digest

end CompletionGateway.Cache
