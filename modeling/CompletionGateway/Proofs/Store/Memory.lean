import CompletionGateway.Proofs.Association
import CompletionGateway.Proofs.Program.Runs
import CompletionGateway.Store.Memory

/-! The store in memory: who owns which conversation, what appending and creating leave unchanged, and the store as
a collaborator of programs, with and without failures. -/
namespace CompletionGateway.Store.Memory
open Program

def owner? (s : Memory) (id : ConversationId) : Option Principal := (s.find? id).map (·.owner)

lemma owner?_eq_some {s : Memory} {id : ConversationId} {p : Principal} :
    s.owner? id = some p ↔ ∃ c, s.find? id = some c ∧ c.owner = p := by simp [owner?]

lemma owner?_eq_none {s : Memory} {id : ConversationId} : s.owner? id = none ↔ s.find? id = none := by
  simp [owner?]

lemma isOwnedBy_iff {c : Conversation} {p : Principal} : c.isOwnedBy p = true ↔ c.owner = p := by
  simp [Conversation.isOwnedBy]

/-- Every conversation is on record once, under its own identifier. -/
structure WellFormed (s : Memory) : Prop where
  distinct : s.conversations.Distinct
  named : ∀ {id c}, s.find? id = some c → c.id = id

lemma wellFormed_empty : empty.WellFormed := ⟨Association.distinct_empty, by simp [find?, empty]⟩

/-- The conversations on record. -/
def held (s : Memory) : List Conversation := s.conversations.entries.map (·.2)

/-- The conversations of an owner. -/
def owned (s : Memory) (p : Principal) : List Conversation := s.held.filter (·.isOwnedBy p)

lemma WellFormed.named_of_mem {s : Memory} (h : s.WellFormed) {e : ConversationId × Conversation}
    (he : e ∈ s.conversations.entries) : e.2.id = e.1 := h.named (h.distinct.mem_iff.mp he)

lemma WellFormed.find?_of_mem {s : Memory} (h : s.WellFormed) {c : Conversation} (hc : c ∈ s.held) :
    s.find? c.id = some c := by
  obtain ⟨e, he, rfl⟩ := List.mem_map.mp hc
  rw [h.named_of_mem he]
  exact h.distinct.mem_iff.mp he

lemma WellFormed.mem_held {s : Memory} (h : s.WellFormed) {id : ConversationId} {c : Conversation}
    (hc : s.find? id = some c) : c ∈ s.held := List.mem_map.mpr ⟨(id, c), h.distinct.mem_iff.mpr hc, rfl⟩

lemma WellFormed.owner?_of_mem {s : Memory} (h : s.WellFormed) {p : Principal} {c : Conversation}
    (hc : c ∈ s.owned p) : s.owner? c.id = some p := by
  obtain ⟨hheld, hown⟩ := List.mem_filter.mp hc
  exact owner?_eq_some.mpr ⟨c, h.find?_of_mem hheld, isOwnedBy_iff.mp hown⟩

namespace Reordered
variable {s s' s'' : Memory}

lemma refl (s : Memory) : Reordered s s := ⟨.refl _, rfl⟩

lemma trans (h : Reordered s s') (h' : Reordered s' s'') : Reordered s s'' :=
  ⟨h.entries.trans h'.entries, h.messages.trans h'.messages⟩

lemma held_perm (h : Reordered s s') : s'.held.Perm s.held := (h.entries.map Prod.snd).symm

lemma owned_perm (h : Reordered s s') (p : Principal) : (s'.owned p).Perm (s.owned p) := h.held_perm.filter _

end Reordered

/-! ### Creating and appending -/

@[simp] lemma messages_create (s : Memory) (c : Conversation) : (s.create c).2.messages = s.messages := by
  unfold create
  split <;> rfl

lemma create_present {s : Memory} {c : Conversation} {d} (h : s.find? c.id = some d) :
    s.create c = (.error (alreadyExists c.id), s) :=
  if_pos (Association.contains_iff.mpr ⟨d, h⟩)

lemma create_absent {s : Memory} {c : Conversation} (h : s.find? c.id = none) :
    s.create c = (.ok (), ⟨s.conversations.insert c.id c, s.messages⟩) :=
  if_neg (by rw [Association.contains_eq_false.mpr h]; exact Bool.false_ne_true)

lemma append_absent {s : Memory} {m : Message} (h : s.find? m.conversation = none) :
    s.append m = (.error (doesNotExist m.conversation), s) := by
  unfold append
  rw [show s.conversations.find? m.conversation = none from h]

lemma append_present {s : Memory} {m : Message} {c} (h : s.find? m.conversation = some c) :
    s.append m = (.ok (), ⟨s.conversations.insert m.conversation (c.touch m.createdAt), s.messages ++ [m]⟩) := by
  unfold append
  rw [show s.conversations.find? m.conversation = some c from h]

lemma WellFormed.insert {s : Memory} (h : s.WellFormed) {c : Conversation} {id : ConversationId} (hid : c.id = id)
    (ms : List Message) : WellFormed ⟨s.conversations.insert id c, ms⟩ := by
  refine ⟨h.distinct.insert id c, ?_⟩
  intro id' d hd
  simp only [find?, Association.find?_insert] at hd
  split at hd
  · rename_i heq
    rw [← Option.some.inj hd, heq, hid]
  · exact h.named hd

lemma WellFormed.create {s : Memory} (h : s.WellFormed) (c : Conversation) : (s.create c).2.WellFormed := by
  cases hc : s.find? c.id with
  | none => rw [create_absent hc]; exact h.insert rfl _
  | some d => rw [create_present hc]; exact h

lemma WellFormed.append {s : Memory} (h : s.WellFormed) (m : Message) : (s.append m).2.WellFormed := by
  cases hc : s.find? m.conversation with
  | none => rw [append_absent hc]; exact h
  | some c =>
    have hid : c.id = m.conversation := h.named hc
    rw [append_present hc]
    exact h.insert (c := c.touch m.createdAt) hid _

/-- The conversations of an owner are as they were if one of somebody else is entered. -/
lemma WellFormed.owned_insert {s : Memory} (h : s.WellFormed) {c : Conversation} {id : ConversationId}
    {q : Principal} (hc : c.owner ≠ q) (hid : s.owner? id ≠ some q) (ms : List Message) :
    owned ⟨s.conversations.insert id c, ms⟩ q = s.owned q := by
  have hq : c.isOwnedBy q = false := by simpa [Conversation.isOwnedBy] using hc
  unfold owned held Association.insert
  split
  · -- the old entry of the identifier is not the owner's either
    have hold : ∀ e ∈ s.conversations.entries, e.1 = id → e.2.isOwnedBy q = false := by
      intro e he heq
      have hfind : s.find? id = some e.2 := h.distinct.mem_iff.mp (heq ▸ he)
      rw [Bool.eq_false_iff]
      exact fun ho => hid (owner?_eq_some.mpr ⟨e.2, hfind, isOwnedBy_iff.mp ho⟩)
    dsimp only
    generalize s.conversations.entries = es at hold ⊢
    induction es with
    | nil => rfl
    | cons e es ih =>
      have htail := ih fun f hf => hold f (List.mem_cons_of_mem _ hf)
      by_cases he : e.1 = id
      · have hfalse := hold e List.mem_cons_self he
        simpa [he, hq, hfalse] using htail
      · simp only [List.map_cons, if_neg he, List.filter_cons, htail]
  · simp [hq]

/-! ### What runs of one principal do to the store -/

/-- A store extended by one principal: conversations stay with their owners, new ones are the principal's, under
identifiers of a set, and so are all conversations that are written to. -/
structure Extends (p : Principal) (new : ConversationId → Prop) (s s' : Memory) : Prop where
  kept : ∀ {id q}, s.owner? id = some q → s'.owner? id = some q
  begun : ∀ {id q}, s'.owner? id = some q → s.owner? id = some q ∨ s.owner? id = none ∧ q = p ∧ new id
  said : ∃ ms, s'.messages = s.messages ++ ms ∧ ∀ m ∈ ms, s'.owner? m.conversation = some p
  owned : ∀ {q}, q ≠ p → (s'.owned q).Perm (s.owned q)

namespace Extends
variable {p : Principal} {new : ConversationId → Prop} {s m s' : Memory}

lemma refl (s : Memory) : Extends p new s s :=
  ⟨id, Or.inl, ⟨[], by simp⟩, fun _ => .refl _⟩

lemma trans (h : Extends p new s m) (h' : Extends p new m s') : Extends p new s s' where
  kept hid := h'.kept (h.kept hid)
  begun := by
    intro id q hq
    rcases h'.begun hq with hm | ⟨hm, hp⟩
    · exact h.begun hm
    · refine .inr ⟨?_, hp⟩
      cases hs : s.owner? id with
      | none => rfl
      | some r => rw [h.kept hs] at hm; cases hm
  said := by
    obtain ⟨ms, hms, hown⟩ := h.said
    obtain ⟨ms', hms', hown'⟩ := h'.said
    refine ⟨ms ++ ms', by rw [hms', hms, List.append_assoc], ?_⟩
    intro x hx
    rcases List.mem_append.mp hx with hx | hx
    · exact h'.kept (hown x hx)
    · exact hown' x hx
  owned hq := (h'.owned hq).trans (h.owned hq)

lemma create (h : s.WellFormed) {c : Conversation} (hp : c.owner = p) (hnew : new c.id) :
    Extends p new s (s.create c).2 := by
  cases hc : s.find? c.id with
  | some d => rw [create_present hc]; exact refl s
  | none =>
    have hnone : s.owner? c.id = none := owner?_eq_none.mpr hc
    have howner : ∀ id, owner? ⟨s.conversations.insert c.id c, s.messages⟩ id =
        if id = c.id then some p else s.owner? id := by
      intro id
      simp only [owner?, find?, Association.find?_insert]
      split <;> simp [hp]
    rw [create_absent hc]
    constructor
    · intro id q hq
      rw [howner, if_neg (by rintro rfl; simp [hnone] at hq)]
      exact hq
    · intro id q hq
      rw [howner] at hq
      split at hq
      · rename_i heq
        exact .inr ⟨heq ▸ hnone, (Option.some.inj hq).symm, heq ▸ hnew⟩
      · exact .inl hq
    · exact ⟨[], by simp, by simp⟩
    · intro q hq
      exact .of_eq (h.owned_insert (hp ▸ hq.symm) (by simp [hnone]) _)

lemma append (h : s.WellFormed) {m : Message} (hp : s.owner? m.conversation = some p) :
    Extends p new s (s.append m).2 := by
  obtain ⟨c, hc, hcp⟩ := owner?_eq_some.mp hp
  have howner : ∀ ms id, owner? ⟨s.conversations.insert m.conversation (c.touch m.createdAt), ms⟩ id =
      s.owner? id := by
    intro ms id
    simp only [owner?, find?, Association.find?_insert]
    split
    · rename_i heq
      rw [heq, show s.conversations.find? m.conversation = some c from hc]
      rfl
    · rfl
  rw [append_present hc]
  constructor
  · intro id q hq
    rw [howner]
    exact hq
  · intro id q hq
    exact .inl (howner _ _ ▸ hq)
  · refine ⟨[m], rfl, ?_⟩
    intro x hx
    rw [howner, List.mem_singleton.mp hx]
    exact hp
  · intro q hq
    have hforeign : (c.touch m.createdAt).owner ≠ q := by
      rw [show (c.touch m.createdAt).owner = p from hcp]
      exact hq.symm
    exact .of_eq (h.owned_insert hforeign (by rw [hp]; exact fun heq => hq (Option.some.inj heq).symm) _)

end Extends

/-! ### The store as a collaborator -/

/-- A store that does what it is asked, a listing being in whatever order its map has at that call. The other
collaborators answer as they like and leave it as it is. -/
def works : Conduct Memory
  | .findConversation id, s, a, s' => a = .ok (s.find? id) ∧ s' = s
  | .createConversation c, s, a, s' => (a, s') = s.create c
  | .appendMessage m, s, a, s' => (a, s') = s.append m
  | .listMessages id, s, a, s' => a = .ok (s.messagesOf id) ∧ s' = s
  | .listConversations p n, s, a, s' => (∃ m, s.Reordered m ∧ a = .ok (m.ownedBy p n)) ∧ s' = s
  | .pingStore, s, a, s' => a = .ok () ∧ s' = s
  | _, s, _, s' => s' = s

/-- A refusal by the store. -/
def refuses : Conduct Memory
  | .findConversation _, s, a, s' => (∃ e, a = .error e) ∧ s' = s
  | .createConversation _, s, a, s' => (∃ e, a = .error e) ∧ s' = s
  | .appendMessage _, s, a, s' => (∃ e, a = .error e) ∧ s' = s
  | .listMessages _, s, a, s' => (∃ e, a = .error e) ∧ s' = s
  | .listConversations _ _, s, a, s' => (∃ e, a = .error e) ∧ s' = s
  | .pingStore, s, a, s' => (∃ e, a = .error e) ∧ s' = s
  | _, _, _, _ => False

/-- A store any of whose operations may fail. -/
def mayFail : Conduct Memory := fun c s a s' => works c s a s' ∨ refuses c s a s'

/-- A store that works among collaborators that answer the same at every call. New identifiers are numbered. -/
def steady (c : CompletionResponse) (f : Feed) : Handler Memory
  | .findConversation id, s => (.ok (s.find? id), s)
  | .createConversation c, s => s.create c
  | .appendMessage m, s => s.append m
  | .listMessages id, s => (.ok (s.messagesOf id), s)
  | .listConversations p n, s => (.ok (s.ownedBy p n), s)
  | .pingStore, s => (.ok (), s)
  | .readCache _, s => (.ok none, s)
  | .writeCache _ _ _, s => (.ok (), s)
  | .pingCache, s => (.ok (), s)
  | .complete _, s => (.ok c, s)
  | .openFeed _, s => (f, s)
  | .offer _, s => (.ok (), s)
  | .emit _, s => (.ok (), s)
  | .hit _ _, s => (.ok ⟨true, 1⟩, s)
  | .freshConversation, s => (⟨⟨BitVec.ofNat 128 s.conversations.size⟩⟩, s)
  | .freshUuid, s => (⟨BitVec.ofNat 128 s.messages.length⟩, s)
  | .wallClock, s => (default, s)
  | .elapsed, s => (default, s)

lemma steady_works (c : CompletionResponse) (f : Feed) (x : Call) (s : Memory) :
    works x s (steady c f x s).1 (steady c f x s).2 := by
  cases x <;> first | exact rfl | exact ⟨rfl, rfl⟩ | exact ⟨⟨s, .refl s, rfl⟩, rfl⟩

lemma works.mayFail {c : Call} {s a s'} (h : works c s a s') : mayFail c s a s' := .inl h

/-- The calls that change a store. -/
def writes : Call → Prop
  | .createConversation _ => True
  | .appendMessage _ => True
  | _ => False

lemma mayFail.unchanged {c : Call} {s a s'} (h : mayFail c s a s') (hc : ¬ writes c) : s' = s := by
  cases c <;> simp_all [mayFail, works, refuses, writes] <;> grind

lemma mayFail.wellFormed {c : Call} {s a s'} (h : mayFail c s a s') (hs : s.WellFormed) : s'.WellFormed := by
  by_cases hc : writes c
  · cases c with
    | createConversation c =>
      rcases h with h | ⟨-, rfl⟩
      · rw [show s' = (s.create c).2 from congrArg Prod.snd h]
        exact hs.create c
      · exact hs
    | appendMessage m =>
      rcases h with h | ⟨-, rfl⟩
      · rw [show s' = (s.append m).2 from congrArg Prod.snd h]
        exact hs.append m
      · exact hs
    | _ => exact hc.elim
  · exact h.unchanged hc ▸ hs

/-- A program that never writes leaves the store as it is. -/
lemma runs_unchanged {α : Type} {p : Program α} {s t r s'} (hp : p.Only fun c => ¬ writes c)
    (h : Runs mayFail p s t r s') : s' = s :=
  h.related (fun s s' => s' = s) (fun _ => rfl) (fun h h' => h'.trans h)
    fun e he _ hκ => hκ.unchanged (h.only hp e he)

lemma runs_wellFormed {α : Type} {p : Program α} {s t r s'} (h : Runs mayFail p s t r s') (hs : s.WellFormed) :
    s'.WellFormed :=
  h.related (fun s s' => s.WellFormed → s'.WellFormed) (fun _ h => h) (fun h h' => h' ∘ h)
    (fun _ _ _ hκ => hκ.wellFormed) hs

/-- The message that a call put on record. -/
def recorded? {σ : Type} : Event σ → Option Message
  | ⟨.appendMessage m, .ok _, _⟩ => some m
  | _ => none

lemma mayFail.messages {c : Call} {s a s'} (h : mayFail c s a s') :
    s'.messages = s.messages ++ (recorded? ⟨c, a, s'⟩).toList := by
  by_cases hc : writes c
  · cases c with
    | createConversation c =>
      rcases h with h | ⟨-, rfl⟩
      · rw [show s' = (s.create c).2 from congrArg Prod.snd h]
        simp [recorded?]
      · simp [recorded?]
    | appendMessage m =>
      rcases h with h | ⟨⟨e, rfl⟩, rfl⟩
      · obtain ⟨rfl, rfl⟩ := Prod.ext_iff.mp h
        cases hm : s.find? m.conversation with
        | none => simp [append_absent hm, recorded?]
        | some c => simp [append_present hm, recorded?]
      · simp [recorded?]
    | _ => exact hc.elim
  · obtain rfl := h.unchanged hc
    cases c <;> first | exact (hc trivial).elim | simp [recorded?]

/-- The messages on record are those of before and the ones that a run put there, in the order of its calls. -/
theorem runs_messages {α : Type} {p : Program α} {s t r s'} (h : Runs mayFail p s t r s') :
    s'.messages = s.messages ++ t.filterMap recorded? := h.grows (·.messages) recorded? mayFail.messages

end CompletionGateway.Store.Memory
