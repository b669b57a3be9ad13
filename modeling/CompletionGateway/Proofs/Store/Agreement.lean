import Mathlib
import CompletionGateway.Proofs.Store.Relational
import CompletionGateway.Store.Conversations

/-! Both kinds of store are one to their callers. Asked for the same, they refuse the same and answer the same, in
whatever order a map in memory goes through its entries. -/
namespace CompletionGateway.Store

/-- What is asked of a store. -/
inductive Operation where
  | create (c : Conversation)
  | append (m : Message)
  | find (id : ConversationId)
  | messagesOf (id : ConversationId)
  | ownedBy (owner : Principal) (limit : Nat)

abbrev Operation.Result : Operation → Type
  | .create _ => Unit
  | .append _ => Unit
  | .find _ => Option Conversation
  | .messagesOf _ => List Message
  | .ownedBy _ _ => List Conversation

def Conversations.serve (s : Conversations) : (o : Operation) → Except StoreError o.Result × Conversations
  | .create c => s.create c
  | .append m => s.append m
  | .find id => (s.find id, s)
  | .messagesOf id => (s.messagesOf id, s)
  | .ownedBy p limit => (s.ownedBy p limit, s)

namespace Memory

/-- The store after an operation. -/
def after (s : Memory) : Operation → Memory
  | .create c => (s.create c).2
  | .append m => (s.append m).2
  | _ => s

lemma serve_snd (s : Memory) (o : Operation) : ((Conversations.memory s).serve o).2 = .memory (s.after o) := by
  cases o <;> rfl

lemma Reordered.after {s s' : Memory} (h : Reordered s s') (hs : s.WellFormed) (o : Operation) :
    Reordered (s.after o) (s'.after o) := by
  cases o with
  | create c =>
    have hfind := h.find?_eq hs c.id
    cases hc : s.find? c.id with
    | none =>
      simp only [Memory.after, create_absent hc, create_absent (hfind.trans hc), h.messages]
      exact h.insert hs _ _ _
    | some d =>
      simp only [Memory.after, create_present hc, create_present (hfind.trans hc)]
      exact h
  | append m =>
    have hfind := h.find?_eq hs m.conversation
    cases hc : s.find? m.conversation with
    | none =>
      simp only [Memory.after, append_absent hc, append_absent (hfind.trans hc)]
      exact h
    | some d =>
      simp only [Memory.after, append_present hc, append_present (hfind.trans hc), h.messages]
      exact h.insert hs _ _ _
  | _ => exact h

end Memory

/-! ### Answers -/

/-- Operations that both kinds of store can keep. Times are whole microseconds of the years from 0 to 9999, a latency
is a positive number, a message has an identifier of its own and is not older than its conversation's messages, and
the limit of a listing is a 64-bit word and its order not left open. -/
def Operation.Fits (s : Memory) : Operation → Prop
  | .create c => c.Exact
  | .append m => m.Exact ∧ (∀ x ∈ s.messages, x.id ≠ m.id) ∧
      ∀ x ∈ s.messages, x.conversation = m.conversation → Time.le x.createdAt m.createdAt = true
  | .find _ => True
  | .messagesOf _ => True
  | .ownedBy p limit => limit < 2 ^ 64 ∧ ((s.owned p).map (·.updatedAt)).Nodup

/-- Each operation fits the store that it comes to. -/
def Legal : Memory → List Operation → Prop
  | _, [] => True
  | s, o :: os => o.Fits s ∧ Legal (s.after o) os

/-- Two stores are asked for the same. At each operation, in whatever order the map of the first goes through its
entries, both refuse or both give the same answer. -/
def Agree : Conversations → Conversations → List Operation → Prop
  | _, _, [] => True
  | s, t, o :: os => ∀ s', s.Reordered s' →
      (s'.serve o).1.toOption = (t.serve o).1.toOption ∧ Agree (s'.serve o).2 (t.serve o).2 os

variable {s s' : Memory} {t : Relational} {o : Operation}

lemma Memory.Reordered.serve_eq (h : s.Reordered s') (hs : s.WellFormed) (ho : o.Fits s) :
    ((Conversations.memory s').serve o).1.toOption = ((Conversations.memory s).serve o).1.toOption := by
  cases o with
  | create c =>
    have hfind := h.find?_eq hs c.id
    cases hc : s.find? c.id with
    | none => simp only [Conversations.serve, Conversations.create, create_absent hc, create_absent (hfind.trans hc)]
    | some d =>
      simp only [Conversations.serve, Conversations.create, create_present hc, create_present (hfind.trans hc)]
  | append m =>
    have hfind := h.find?_eq hs m.conversation
    cases hc : s.find? m.conversation with
    | none => simp only [Conversations.serve, Conversations.append, append_absent hc, append_absent (hfind.trans hc)]
    | some d =>
      simp only [Conversations.serve, Conversations.append, append_present hc, append_present (hfind.trans hc)]
  | find id => simp only [Conversations.serve, Conversations.find, h.find?_eq hs]
  | messagesOf id => simp only [Conversations.serve, Conversations.messagesOf, Memory.messagesOf, h.messages]
  | ownedBy p limit => simp only [Conversations.serve, Conversations.ownedBy, h.ownedBy_eq ho.2]

/-- One operation on the records and on their rows. -/
lemma Mirrors.serve (h : Mirrors s t) (ho : o.Fits s) :
    ((Conversations.memory s).serve o).1.toOption = ((Conversations.relational t).serve o).1.toOption ∧
      ∃ t', ((Conversations.relational t).serve o).2 = .relational t' ∧ Mirrors (s.after o) t' := by
  cases o with
  | create c =>
    obtain ⟨hanswer, hnext⟩ := h.create ho
    exact ⟨hanswer.symm, _, rfl, hnext⟩
  | append m =>
    obtain ⟨hm, hnew, hlast⟩ := ho
    obtain ⟨hanswer, hnext⟩ := h.append hm hnew hlast
    exact ⟨hanswer.symm, _, rfl, hnext⟩
  | find id => exact ⟨by simp only [Conversations.serve, Conversations.find, h.find], t, rfl, h⟩
  | messagesOf id => exact ⟨by simp only [Conversations.serve, Conversations.messagesOf, h.messagesOf], t, rfl, h⟩
  | ownedBy p limit =>
    obtain ⟨hlimit, hdistinct⟩ := ho
    exact ⟨by simp only [Conversations.serve, Conversations.ownedBy, h.ownedBy p hlimit hdistinct], t, rfl, h⟩

lemma Mirrors.agree {os : List Operation} (h : Mirrors s t) (hs : s.Reordered s') (hos : Legal s os) :
    Agree (.memory s') (.relational t) os := by
  induction os generalizing s s' t with
  | nil => trivial
  | cons o os ih =>
    rintro _ (hs' | _)
    have hre := hs.trans hs'
    obtain ⟨ho, hos⟩ := hos
    obtain ⟨hanswer, t', hnext, hmirrors⟩ := h.serve ho
    refine ⟨(hre.serve_eq h.wellFormed ho).trans hanswer, ?_⟩
    rw [Memory.serve_snd, hnext]
    exact ih hmirrors (hre.after h.wellFormed o) hos

/-- An empty store in memory and empty tables answer every sequence of operations alike. -/
theorem agree_of_legal {os : List Operation} (h : Legal .empty os) : Agree (.memory .empty) (.relational .empty) os :=
  Mirrors.empty.agree (.refl _) h

/-- Alice has two conversations, one begun twice, and says something in the first; in a third there is nothing. -/
def twoConversations : List Operation :=
  let first : Conversation := .start ⟨⟨1⟩⟩ ⟨60, 0⟩ ⟨"alice"⟩
  let second : Conversation := .start ⟨⟨2⟩⟩ ⟨61, 250000⟩ ⟨"alice"⟩
  [.create first, .create second, .create first, .append (.ofUser ⟨7⟩ ⟨62, 0⟩ ⟨⟨1⟩⟩ "hello"),
    .append (.ofUser ⟨8⟩ ⟨63, 0⟩ ⟨⟨3⟩⟩ "hello"), .find ⟨⟨1⟩⟩, .messagesOf ⟨⟨1⟩⟩, .ownedBy ⟨"alice"⟩ (2 ^ 64 - 1)]

theorem agree_of_legal_twoConversations :
    Legal .empty twoConversations ∧ Agree (.memory .empty) (.relational .empty) twoConversations := by
  have hlegal : Legal .empty twoConversations := by
    have hexact : ∀ {s : Int} {n : Nat}, 0 ≤ s → s < 86400 → n < 1000000000 → n % 1000 = 0 →
        Time.Exact ⟨s, n⟩ := by
      intro s n hs hs' hn hmicros
      have hday : s / 86400 = 0 := by omega
      exact ⟨⟨by rw [hday]; decide, .inl hn⟩, hmicros⟩
    have h60 : Time.Exact ⟨60, 0⟩ := hexact (by decide) (by decide) (by decide) (by decide)
    have h61 : Time.Exact ⟨61, 250000⟩ := hexact (by decide) (by decide) (by decide) (by decide)
    have h62 : Time.Exact ⟨62, 0⟩ := hexact (by decide) (by decide) (by decide) (by decide)
    have h63 : Time.Exact ⟨63, 0⟩ := hexact (by decide) (by decide) (by decide) (by decide)
    exact ⟨⟨h60, h60⟩, ⟨h61, h61⟩, ⟨h60, h60⟩, ⟨⟨h62, nofun⟩, by decide, by decide⟩,
      ⟨⟨h63, nofun⟩, by decide, by decide⟩, trivial, trivial, ⟨by decide, by decide⟩, trivial⟩
  exact ⟨hlegal, agree_of_legal hlegal⟩

end CompletionGateway.Store
