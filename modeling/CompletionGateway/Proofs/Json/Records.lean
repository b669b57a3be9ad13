import CompletionGateway.Completion.Wire
import CompletionGateway.Proofs.Json.Text
import CompletionGateway.Proofs.Uuid

/-! Records are read back from their JSON texts: the frames that callers are shown, and the answers that the cache
holds. -/
namespace CompletionGateway
open Json Json.Decode Numeric

namespace Json

/-- A text that is there. -/
def textTree (s : String) : Tree := .string (some s)

lemma decodeBytes_text {α : Type} (d : Decoder α) (j : Json) : decodeBytes d (Text.utf8 j.text) = d (tree j) := by
  rw [decodeBytes, parse_text, Option.bind_some]

lemma decodeText_text {α : Type} (d : Decoder α) (j : Json) : decodeText d j.text = d (tree j) := decodeBytes_text d j

end Json

lemma Uuid.ofTree?_toJson (u : Uuid) : Uuid.ofTree? (tree u.toJson) = some u := by
  rw [Uuid.toJson, tree_string, Uuid.ofTree?, Option.bind_some, Uuid.parse?_text]

lemma ConversationId.ofTree?_toJson (id : ConversationId) : ConversationId.ofTree? (tree id.toJson) = some id := by
  rw [ConversationId.ofTree?, ConversationId.toJson, Uuid.ofTree?_toJson]
  rfl

/-! ### Frames -/

namespace StreamFrame

lemma fields_toJson (f : StreamFrame) :
    fields ["id", "conversation_id", "delta", "finish_reason", "model"] (tree f.toJson) =
      some [some (textTree f.id), some (tree f.conversation.toJson), some (textTree f.delta),
        f.finishReason.map textTree, f.model.map textTree] := by
  obtain ⟨id, conversation, delta, finish, model⟩ := f
  cases finish <;> cases model <;> simp [StreamFrame.toJson, field?] <;> rfl

theorem ofTree?_toJson (f : StreamFrame) : StreamFrame.ofTree? (tree f.toJson) = some f := by
  unfold StreamFrame.ofTree?
  rw [fields_toJson]
  obtain ⟨id, conversation, delta, finish, model⟩ := f
  have hid := ConversationId.ofTree?_toJson conversation
  cases finish <;> cases model <;>
    simp [required, maybe, withDefault, Decode.optional, at?, Decode.text, textTree, hid]

/-- A frame is read back from its text. -/
theorem decodeText_toJson (f : StreamFrame) : decodeText StreamFrame.ofTree? f.toJson.text = some f := by
  rw [decodeText_text, ofTree?_toJson]

end StreamFrame

/-! ### Answers -/

namespace Json.Numeral

lemma integer?_ofInt (i : Int) : (Written.ofInt i).numeral.integer? = some i.natAbs := by
  simp [integer?, Written.ofInt, Written.numeral, digitsValue_digitChars]

end Json.Numeral

lemma count_word32 (n : UInt32) : count (tree (word32 n)) = some n := by
  have hn := n.toNat_lt
  have hbelow : (Written.ofInt (n.toNat : Int)).numeral.natBelow? (2 ^ 32) = some n.toNat := by
    rw [Numeral.natBelow?, Numeral.integer?_ofInt]
    simp [Written.ofInt, Written.numeral]
    omega
  simp only [Json.word32, Json.nat, tree_integer, count, Decode.word32, natBelow, hbelow, Option.map_some]
  simp

lemma optional_word32 (n : UInt32) : Decode.optional count (tree (word32 n)) = some (some n) := by
  have h := congrArg (Option.map some) (count_word32 n)
  rw [Json.word32, Json.nat, tree_integer] at h ⊢
  exact h

namespace InferenceResponse

lemma fields_toJson (r : InferenceResponse) :
    fields ["id", "conversation_id", "content", "model", "token_count", "latency_ms", "cached"] (tree r.toJson) =
      some [some (tree r.id.toJson), some (tree r.conversation.toJson), some (textTree r.content),
        some (textTree r.model), r.tokenCount.map fun n => tree (word32 n), some (tree (.real double r.latency)),
        some (.bool r.cached)] := by
  obtain ⟨id, conversation, content, model, tokens, latency, cached⟩ := r
  cases tokens <;> simp [InferenceResponse.toJson, field?] <;> rfl

/-- An answer is read back if its latency can be, which is all of it that may come back changed. -/
theorem ofTree?_toJson (r : InferenceResponse) {l : Binary}
    (hl : real double (tree (.real double r.latency)) = some l) :
    InferenceResponse.ofTree? (tree r.toJson) =
      some ⟨r.id, r.conversation, r.content, r.model, r.tokenCount, l, r.cached⟩ := by
  unfold InferenceResponse.ofTree?
  rw [fields_toJson]
  obtain ⟨id, conversation, content, model, tokens, latency, cached⟩ := r
  have hid := Uuid.ofTree?_toJson id
  have hconversation := ConversationId.ofTree?_toJson conversation
  cases tokens with
  | none =>
    simp [required, maybe, withDefault, Decode.optional, at?, Decode.text, Decode.bool, textTree, hid, hconversation,
      hl]
  | some n =>
    simp [required, maybe, withDefault, optional_word32, at?, Decode.text, Decode.bool, textTree, hid, hconversation,
      hl]

end InferenceResponse
end CompletionGateway
