import CompletionGateway.Completion.Client
import CompletionGateway.Proofs.Json.Records

/-! What the texts on the wire say. Turns, chunks, frames and token counts come back from their texts as they were, and
a request to the backend holds the turns that it was made of, whether or not the answer is to be streamed. -/
namespace CompletionGateway
open Json Json.Decode

/-- Every value is read back from its text. -/
def Legible {α : Type} (toJson : α → Json) (ofTree? : Decoder α) : Prop :=
  ∀ a, decodeText ofTree? (toJson a).text = some a

lemma Legible.of_tree {α : Type} {toJson : α → Json} {ofTree? : Decoder α}
    (h : ∀ a, ofTree? (tree (toJson a)) = some a) : Legible toJson ofTree? :=
  fun a => (decodeText_text ofTree? (toJson a)).trans (h a)

/-! ### Records -/

lemma Role.ofTree?_name (r : Role) : Role.ofTree? (textTree r.name) = some r := by
  rw [textTree, Role.ofTree?, Option.bind_some, Role.ofName_name]
  rfl

lemma Role.ofTree?_toJson (r : Role) : Role.ofTree? (tree r.toJson) = some r := by
  rw [Role.toJson, tree_string]
  exact Role.ofTree?_name r

/-- A turn is read from any object with its role and its content, whatever their order there. -/
lemma Turn.ofTree?_of_fields {x : Tree} {t : Turn}
    (h : fields ["role", "content"] x = some [some (textTree t.role.name), some (textTree t.content)]) :
    Turn.ofTree? x = some t := by
  have hrole : Role.ofTree? (.string (some t.role.name)) = some t.role := Role.ofTree?_name t.role
  rw [Turn.ofTree?, h]
  simp [required, at?, Decode.text, textTree, hrole]

lemma Turn.ofTree?_toJson (t : Turn) : Turn.ofTree? (tree t.toJson) = some t := by
  apply Turn.ofTree?_of_fields
  rw [Turn.toJson, Role.toJson, tree_object]
  rfl

lemma Usage.ofTree?_toJson (u : Usage) : Usage.ofTree? (tree u.toJson) = some u := by
  have hfields : fields ["prompt_tokens", "completion_tokens", "total_tokens"] (tree u.toJson) =
      some [some (tree (word32 u.promptTokens)), some (tree (word32 u.completionTokens)),
        some (tree (word32 u.totalTokens))] := by
    rw [Usage.toJson, tree_object]
    rfl
  rw [Usage.ofTree?, hfields]
  simp [required, at?, count_word32]

namespace Chunk

lemma fields_toJson (c : Chunk) : fields ["id", "delta", "finish_reason", "model"] (tree c.toJson) =
    some [some (textTree c.id), some (textTree c.delta), c.finishReason.map textTree, c.model.map textTree] := by
  obtain ⟨id, delta, finish, model⟩ := c
  cases finish <;> cases model <;> simp [Chunk.toJson, field?] <;> rfl

lemma ofTree?_toJson (c : Chunk) : Chunk.ofTree? (tree c.toJson) = some c := by
  rw [Chunk.ofTree?, fields_toJson]
  obtain ⟨id, delta, finish, model⟩ := c
  cases finish <;> cases model <;>
    simp [required, maybe, withDefault, Decode.optional, at?, Decode.text, textTree]

end Chunk

/-! ### Requests to the backend -/

namespace Json

lemma tree_array (xs : List Json) : tree (.array xs) = .array (xs.map tree) := by
  rw [tree]
  congr 1
  induction xs with
  | nil => rfl
  | cons x xs ih => rw [elementTrees, ih, List.map_cons]

/-- An array is read back if its elements are, each in its place. -/
lemma Decode.listOf_array {α : Type} {toJson : α → Json} {ofTree? : Decoder α}
    (h : ∀ a, ofTree? (tree (toJson a)) = some a) (as : List α) :
    listOf ofTree? (tree (.array (as.map toJson))) = some as := by
  rw [tree_array, listOf, List.map_map]
  induction as with
  | nil => rfl
  | cons a as ih =>
    rw [List.map_cons, List.mapM_cons, Function.comp_apply, h, ih]
    rfl

lemma memberChars_append (front : List (String × Json)) (name : String) (back : List (String × Json)) :
    ∃ before, ∀ v, memberChars (front ++ (name, v) :: back) =
      before ++ stringChars name ++ ':' :: (chars v ++ memberChars back) := by
  induction front with
  | nil => exact ⟨[','], fun v => by rw [List.nil_append, memberChars]; rfl⟩
  | cons m front ih =>
    obtain ⟨before, hbefore⟩ := ih
    refine ⟨',' :: (stringChars m.1 ++ ':' :: (chars m.2 ++ before)), fun v => ?_⟩
    rw [List.cons_append, memberChars, hbefore]
    simp only [List.cons_append, List.append_assoc]

/-- The text of an object is that of the value of one member, with a front and a back that do not depend on it. -/
lemma text_object_member (front : List (String × Json)) (name : String) (back : List (String × Json)) :
    ∃ before after : String, ∀ v, (Json.object (front ++ (name, v) :: back)).text =
      before ++ String.ofList (stringChars name) ++ ":" ++ v.text ++ after := by
  have hchars : ∃ before, ∀ v, chars (.object (front ++ (name, v) :: back)) =
      before ++ stringChars name ++ ':' :: (chars v ++ memberChars back) := by
    cases front with
    | nil => exact ⟨['\x7b'], fun v => by rw [List.nil_append, chars]; rfl⟩
    | cons m front =>
      obtain ⟨before, hbefore⟩ := memberChars_append front name back
      refine ⟨'\x7b' :: (stringChars m.1 ++ ':' :: (chars m.2 ++ before)), fun v => ?_⟩
      rw [List.cons_append, chars, hbefore]
      simp only [List.cons_append, List.append_assoc]
  obtain ⟨before, hbefore⟩ := hchars
  refine ⟨String.ofList before, String.ofList (memberChars back), fun v => ?_⟩
  rw [text, hbefore, text]
  apply String.toList_injective
  simp

end Json

namespace Client

/-- The turns in the body of a request. -/
def messagesOfTree? : Decoder (List Turn) := fun t => do
  let fs ← fields ["messages"] t
  required (listOf Turn.ofTree?) fs 0

/-- The members of a body on either side of the one for streaming. -/
def bodyFront (r : CompletionRequest) : List (String × Json) :=
  [("max_tokens", word32 r.params.maxTokens), ("messages", .array (r.turns.map turnJson)),
    ("model", .string r.params.model)]

def bodyBack (r : CompletionRequest) : List (String × Json) :=
  [("temperature", .real Numeric.double (Numeric.double.convert r.params.temperature))]

/-- What the body of a request says when the answer is to be streamed and when it is not. -/
structure BodyLegible (r : CompletionRequest) (body : Bool → String) : Prop where
  messages : ∀ stream, decodeText messagesOfTree? (body stream) = some r.turns
  /-- Read as objects, both have the same members in the same order, save for one. -/
  members : ∃ front back, (∀ m ∈ front ++ back, m.1 ≠ some "stream") ∧
    ∀ stream, Tree.ofText (body stream) = some (.object (front ++ (some "stream", .bool stream) :: back))
  /-- Letter for letter they are the same, save for the word that is the value of this member. -/
  letters : ∃ front back : String, ∀ stream, body stream = front ++ "\"stream\":" ++ toString stream ++ back

lemma ofTree?_turnJson (t : Turn) : Turn.ofTree? (tree (turnJson t)) = some t := by
  apply Turn.ofTree?_of_fields
  rw [turnJson, tree_object]
  rfl

lemma messagesOfTree?_body (r : CompletionRequest) (stream : Bool) :
    messagesOfTree? (tree (body r stream)) = some r.turns := by
  have hfields : fields ["messages"] (tree (body r stream)) = some [some (tree (.array (r.turns.map turnJson)))] := by
    rw [body, tree_object]
    rfl
  rw [messagesOfTree?, hfields]
  exact listOf_array ofTree?_turnJson r.turns

lemma body_eq (r : CompletionRequest) (stream : Bool) :
    body r stream = .object (bodyFront r ++ ("stream", .bool stream) :: bodyBack r) := rfl

lemma bodyLegible (r : CompletionRequest) : BodyLegible r fun stream => (body r stream).text := by
  refine ⟨fun stream => ?_, ⟨(bodyFront r).map fun m => (some m.1, tree m.2),
    (bodyBack r).map fun m => (some m.1, tree m.2), ?_, fun stream => ?_⟩, ?_⟩
  · rw [decodeText_text, messagesOfTree?_body]
  · simp [bodyFront, bodyBack]
  · rw [Tree.ofText, parse_text, body_eq, tree_object, List.map_append, List.map_cons, tree_bool]
  · obtain ⟨before, after, htext⟩ := text_object_member (bodyFront r) "stream" (bodyBack r)
    have hname : String.ofList (stringChars "stream") = "\"stream\"" := by decide
    refine ⟨before, after, fun stream => ?_⟩
    have hvalue : (Json.bool stream).text = toString stream := by cases stream <;> rfl
    rw [body_eq, htext, hname, hvalue]
    simp [String.append_assoc]

end Client

/-- Whatever strings, counts and identifiers they hold, and whichever of their optional fields are there. -/
theorem texts_legible :
    Legible Role.toJson Role.ofTree? ∧ Legible Turn.toJson Turn.ofTree? ∧ Legible Chunk.toJson Chunk.ofTree? ∧
    Legible StreamFrame.toJson StreamFrame.ofTree? ∧ Legible Usage.toJson Usage.ofTree? ∧
    ∀ (c : Client) (r : CompletionRequest), Client.BodyLegible r fun stream => (c.post r stream).body :=
  ⟨.of_tree Role.ofTree?_toJson, .of_tree Turn.ofTree?_toJson, .of_tree Chunk.ofTree?_toJson,
    StreamFrame.decodeText_toJson, .of_tree Usage.ofTree?_toJson, fun _ r => Client.bodyLegible r⟩

end CompletionGateway
