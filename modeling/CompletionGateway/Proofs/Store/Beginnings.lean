import CompletionGateway.Proofs.Store.Ledger

/-! What a store of either kind does when a conversation is to begin. If it takes the conversation, that is all that it has
more than before, and nothing is said in it; if it refuses, it is as before. -/
namespace CompletionGateway.Store

lemma ConversationRow.owner_of_read {r : ConversationRow} {c : Conversation} (h : r.read = .ok c) :
    c.owner = ⟨r.userId⟩ := by
  unfold read at h
  cases hid : readUuid r.id with
  | error e => rw [hid] at h; cases h
  | ok id =>
    rw [hid] at h
    cases hcreated : readTime r.createdAt with
    | error e => rw [hcreated] at h; cases h
    | ok createdAt =>
      rw [hcreated] at h
      cases hupdated : readTime r.updatedAt with
      | error e => rw [hupdated] at h; cases h
      | ok updatedAt =>
        rw [hupdated] at h
        cases h
        rfl

namespace Conversations
variable {s s' : Conversations} {c : Conversation}

/-- A store has taken a conversation that was not on record. -/
structure Begins (s : Conversations) (c : Conversation) (s' : Conversations) : Prop where
  absent : s.find c.id = .ok none
  found : s'.find c.id ≠ .ok none
  owned : ∀ d, s'.find c.id = .ok (some d) → d.owner = c.owner
  others : ∀ id, id ≠ c.id → s'.find id = s.find id
  messages : ∀ id, s'.messagesOf id = s.messagesOf id
  empty : s.Referenced → s'.messagesOf c.id = .ok []

/-- A store is as it was, or a conversation has begun in it for a principal who has named none on record. -/
def AtMostBegun (s : Conversations) (p : Principal) (named : Option ConversationId) (s' : Conversations) : Prop :=
  s' = s ∨ (∀ id, named = some id → s.find id = .ok none) ∧ ∃ c, c.owner = p ∧ s.Begins c s'

lemma create_memory {m : Memory} (hc : m.find? c.id = none) :
    (Conversations.memory m).Begins c (.memory ⟨m.conversations.insert c.id c, m.messages⟩) := by
  have hfind : ∀ id, find (.memory ⟨m.conversations.insert c.id c, m.messages⟩) id =
      .ok (if id = c.id then some c else m.find? id) := by
    intro id
    simp only [find, Memory.find?, Association.find?_insert]
  constructor
  · exact congrArg Except.ok hc
  · intro hnone
    rw [hfind, if_pos rfl] at hnone
    cases hnone
  · intro d hd
    rw [hfind, if_pos rfl] at hd
    cases hd
    rfl
  · intro id hne
    rw [hfind, if_neg hne]
    rfl
  · intro id
    rfl
  · intro href
    refine congrArg Except.ok (List.filter_eq_nil_iff.mpr fun x hx heq => ?_)
    obtain ⟨d, hd⟩ := href x hx
    rw [of_decide_eq_true heq, hc] at hd
    cases hd

lemma create_relational {t : Relational} (hopen : t.closed = false) (hnew : ∀ r ∈ t.conversations, r.id ≠ c.id.text) :
    (Conversations.relational t).Begins c
      (.relational ⟨t.conversations ++ [.ofConversation c], t.messages, t.closed⟩) := by
  have hnone : t.conversations.find? (·.id = c.id.text) = none := by
    simpa [List.find?_eq_none] using hnew
  have hself : find (.relational ⟨t.conversations ++ [.ofConversation c], t.messages, t.closed⟩) c.id =
      (ConversationRow.ofConversation c).read.map some := by
    simp [find, Relational.find, hopen, List.find?_append, hnone, ConversationRow.ofConversation]
  constructor
  · simp [find, Relational.find, hopen, hnone]
  · intro hnone
    rw [hself] at hnone
    cases hread : (ConversationRow.ofConversation c).read with
    | error e => rw [hread] at hnone; cases hnone
    | ok d => rw [hread] at hnone; cases hnone
  · intro d hd
    rw [hself] at hd
    cases hread : (ConversationRow.ofConversation c).read with
    | error e => rw [hread] at hd; cases hd
    | ok d' =>
      rw [hread] at hd
      cases hd
      exact ConversationRow.owner_of_read hread
  · intro id hne
    have hother : ¬ (ConversationRow.ofConversation c).id = id.text := fun heq =>
      hne (ConversationId.text_inj.mp heq).symm
    simp [find, Relational.find, List.find?_append, hother]
  · intro id
    rfl
  · intro href
    have hsilent : t.messages.filter (fun r => r.conversationId = c.id.text) = [] := by
      refine List.filter_eq_nil_iff.mpr fun r hr heq => ?_
      obtain ⟨d, hd, hid⟩ := href r hr
      exact hnew d hd (hid.trans (of_decide_eq_true heq))
    simp only [messagesOf, Relational.messagesOf, hopen, Bool.false_eq_true, if_false, hsilent,
      List.mergeSort_nil, List.mapM_nil]
    rfl

/-- A store that is to take a conversation takes it, or is as before. -/
theorem create_cases (s : Conversations) (c : Conversation) :
    (s.create c).1 = .ok () ∧ s.Begins c (s.create c).2 ∨ (∃ e, (s.create c).1 = .error e) ∧ (s.create c).2 = s := by
  cases s with
  | memory m =>
    cases hc : m.find? c.id with
    | none =>
      rw [create, Memory.create_absent hc]
      exact .inl ⟨rfl, create_memory hc⟩
    | some d =>
      rw [create, Memory.create_present hc]
      exact .inr ⟨⟨_, rfl⟩, rfl⟩
  | relational t =>
    rw [create, Relational.create, Relational.insertConversation?]
    split
    · rename_i hinsert
      split at hinsert
      · cases hinsert
      · rename_i hfresh
        cases hinsert
        simp only [Bool.or_eq_true, not_or, Bool.not_eq_true, List.any_eq_false, decide_eq_true_eq] at hfresh
        exact .inl ⟨rfl, create_relational hfresh.1 hfresh.2⟩
    · exact .inr ⟨⟨_, rfl⟩, rfl⟩

end Conversations
end CompletionGateway.Store
