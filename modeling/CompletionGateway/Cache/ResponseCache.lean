import CompletionGateway.Cache.Fingerprint
import CompletionGateway.Pipeline.Program

/-! The cache of answers by fingerprint. It is never needed for a correct answer: a backend that fails and
an entry that cannot be read are misses, and a failing write is ignored. -/
namespace CompletionGateway.Cache

/-- The entry of a fingerprint. -/
def lookup {α : Type} (decode : List UInt8 → Option α) (f : Fingerprint) : Program (Option α) :=
  Program.bind (Program.perform (.readCache f.key)) fun
    | .ok (some bytes) => .done (decode bytes)
    | .ok none => .done none
    | .error _ => .done none

/-- Keep a value for the time given, in nanoseconds. -/
def store (ttl : Nat) (f : Fingerprint) (value : Json) : Program Unit :=
  Program.bind (Program.perform (.writeCache f.key (Text.utf8 value.text) ttl)) fun _ => .done ()

end CompletionGateway.Cache
