import Mathlib
import CompletionGateway.Proofs.Store.Agreement

/-! What stores answer after any operations, told from the ones that they took. A store that starts empty loses no
conversation and no message that it took, makes up none, and keeps a conversation as recent as its latest message. -/
namespace CompletionGateway
open Store

/-- A conversation as a table keeps it, to the microsecond. -/
def Conversation.cut (c : Conversation) : Conversation := ⟨c.id, c.owner, c.title, c.createdAt.cut, c.updatedAt.cut⟩

/-- A message as a table keeps it, to the microsecond and with a latency that a column of reals can hold. -/
def Message.cut (m : Message) : Message :=
  ⟨m.id, m.conversation, m.role, m.content, m.tokenCount, m.model, m.latency.bind columnReal, m.createdAt.cut⟩

namespace Store

/-! ### What was taken -/

/-- What a store has taken: the conversations as they were begun and the messages as they were said, in order. -/
structure Ledger where
  begun : List Conversation
  said : List Message

namespace Ledger

def empty : Ledger := ⟨[], []⟩

/-- Note an operation, if the store did not refuse it. -/
def note (l : Ledger) : (o : Operation) → Except StoreError o.Result → Ledger
  | .create c, .ok _ => ⟨l.begun ++ [c], l.said⟩
  | .append m, .ok _ => ⟨l.begun, l.said ++ [m]⟩
  | _, _ => l

/-- The ledger as tables keep it. -/
def cut (l : Ledger) : Ledger := ⟨l.begun.map .cut, l.said.map .cut⟩

def messagesIn (l : Ledger) (id : ConversationId) : List Message := l.said.filter (·.conversation = id)

/-- How many conversations a principal has begun. -/
def owned (l : Ledger) (p : Principal) : Nat := l.begun.countP (·.owner = p)

/-- A conversation on record is the one that was begun, but as recent as the latest of its messages. -/
structure IsHead (l : Ledger) (c d : Conversation) : Prop where
  id : d.id = c.id
  owner : d.owner = c.owner
  title : d.title = c.title
  createdAt : d.createdAt = c.createdAt
  updatedAt_mem : d.updatedAt ∈ c.updatedAt :: (l.messagesIn c.id).map (·.createdAt)
  updatedAt_max : ∀ t ∈ c.updatedAt :: (l.messagesIn c.id).map (·.createdAt), Time.le t d.updatedAt = true

end Ledger

/-- A store and the ledger of what it has taken, after some operations. -/
def Conversations.run : Conversations × Ledger → List Operation → Conversations × Ledger
  | r, [] => r
  | (s, l), o :: os => run ((s.serve o).2, l.note o (s.serve o).1) os

/-- The times of an operation are of the years from 0 to 9999. -/
def Operation.Recordable : Operation → Prop
  | .create c => c.createdAt.Recordable ∧ c.updatedAt.Recordable
  | .append m => m.createdAt.Recordable
  | _ => True

/-! ### What is answered -/

namespace Conversations

/-- Every message on record belongs to a conversation on record. -/
def Referenced : Conversations → Prop
  | .memory s => ∀ m ∈ s.messages, ∃ c, s.find? m.conversation = some c
  | .relational t => ∀ r ∈ t.messages, ∃ c ∈ t.conversations, c.id = r.conversationId

/-- The order in which messages are listed: in memory that of appending, in tables that of time, and that of appending
among the messages of one instant. -/
def Arranges : Conversations → List Message → List Message → Prop
  | .memory _, said, ms => ms = said
  | .relational _, said, ms => ms.Perm said ∧ ms.Pairwise (fun a b => Time.le a.createdAt b.createdAt = true) ∧
      ∀ t, ms.filter (·.createdAt = t) = said.filter (·.createdAt = t)

/-- The store takes the limit of a listing for one, or as good as. A database takes the upper half of the 64-bit words
for no limit. -/
def Heeds : Conversations → Nat → Nat → Prop
  | .memory _, _, _ => True
  | .relational _, limit, owned => limit < 2 ^ 64 ∧ (limit < 2 ^ 63 ∨ owned ≤ limit)

/-- A listing of an owner's conversations, of which there are so many. -/
structure Lists (s : Conversations) (p : Principal) (limit owned : Nat) (cs : List Conversation) : Prop where
  onRecord : ∀ d ∈ cs, d.owner = p ∧ s.find d.id = .ok (some d)
  once : (cs.map (·.id)).Nodup
  sorted : cs.Pairwise fun a b => Time.le b.updatedAt a.updatedAt = true
  length : cs.length = min limit owned
  /-- None that is left out is more recent than one that is listed. -/
  latest : ∀ d, s.find d.id = .ok (some d) → d.owner = p → d ∉ cs → ∀ e ∈ cs, Time.le d.updatedAt e.updatedAt = true

/-- The store answers what its ledger says. -/
structure Faithful (s : Conversations) (l : Ledger) : Prop where
  once : (l.begun.map (·.id)).Nodup
  referenced : s.Referenced
  begun : ∀ c ∈ l.begun, ∃ d, s.find c.id = .ok (some d) ∧ l.IsHead c d
  absent : ∀ id, (∀ c ∈ l.begun, c.id ≠ id) → s.find id = .ok none
  said : ∀ id, ∃ ms, s.messagesOf id = .ok ms ∧ s.Arranges (l.messagesIn id) ms
  listed : ∀ p limit, s.Heeds limit (l.owned p) → ∃ cs, s.ownedBy p limit = .ok cs ∧ s.Lists p limit (l.owned p) cs
  /-- Appending to one conversation changes no other. -/
  others : ∀ m id, id ≠ m.conversation →
    (s.append m).2.find id = s.find id ∧ (s.append m).2.messagesOf id = s.messagesOf id

end Conversations

/-! ### The heads of conversations -/

namespace Ledger
variable {l : Ledger}

/-- Each conversation was begun once, and whatever was said was said in one of them. -/
structure Sound (l : Ledger) : Prop where
  once : (l.begun.map (·.id)).Nodup
  begun : ∀ m ∈ l.said, ∃ c ∈ l.begun, c.id = m.conversation

lemma sound_empty : empty.Sound := ⟨List.nodup_nil, fun _ hm => by cases hm⟩

lemma Sound.create (h : l.Sound) {c : Conversation} (hc : ∀ d ∈ l.begun, d.id ≠ c.id) :
    Sound ⟨l.begun ++ [c], l.said⟩ := by
  refine ⟨?_, ?_⟩
  · rw [List.map_append, List.map_singleton, List.nodup_append_comm]
    refine List.nodup_cons.mpr ⟨?_, h.once⟩
    intro hmem
    obtain ⟨d, hd, heq⟩ := List.mem_map.mp hmem
    exact hc d hd heq
  · intro m hm
    obtain ⟨d, hd, heq⟩ := h.begun m hm
    exact ⟨d, List.mem_append_left _ hd, heq⟩

lemma Sound.append (h : l.Sound) {m : Message} {c : Conversation} (hc : c ∈ l.begun) (hm : c.id = m.conversation) :
    Sound ⟨l.begun, l.said ++ [m]⟩ := by
  refine ⟨h.once, ?_⟩
  intro x hx
  rcases List.mem_append.mp hx with hx | hx
  · exact h.begun x hx
  · exact ⟨c, hc, List.mem_singleton.mp hx ▸ hm⟩

/-- A conversation that was begun, as recent as the latest of its messages. -/
def head (l : Ledger) (c : Conversation) : Conversation :=
  ⟨c.id, c.owner, c.title, c.createdAt, ((l.messagesIn c.id).map (·.createdAt)).foldl Time.latest c.updatedAt⟩

def heads (l : Ledger) : List Conversation := l.begun.map l.head

lemma isHead_head (l : Ledger) (c : Conversation) : l.IsHead c (l.head c) := by
  obtain ⟨hmem, hmax⟩ := Time.foldl_latest c.updatedAt ((l.messagesIn c.id).map (·.createdAt))
  exact ⟨rfl, rfl, rfl, rfl, hmem, hmax⟩

lemma ids_heads (l : Ledger) : l.heads.map (·.id) = l.begun.map (·.id) := by
  rw [heads, List.map_map]
  rfl

lemma Sound.heads_inj (h : l.Sound) {c d : Conversation} (hc : c ∈ l.heads) (hd : d ∈ l.heads) (heq : c.id = d.id) :
    c = d := List.inj_on_of_nodup_map (l.ids_heads ▸ h.once) hc hd heq

lemma exists_head_iff {id : ConversationId} : (∃ c ∈ l.heads, c.id = id) ↔ ∃ c ∈ l.begun, c.id = id := by
  rw [← List.mem_map, ← List.mem_map, l.ids_heads]

lemma length_owned_heads (l : Ledger) (p : Principal) : (l.heads.filter (·.isOwnedBy p)).length = l.owned p := by
  rw [← List.countP_eq_length_filter, heads, List.countP_map, owned]
  congr 1

lemma Sound.heads_create (h : l.Sound) {c : Conversation} (hc : ∀ d ∈ l.begun, d.id ≠ c.id) :
    heads ⟨l.begun ++ [c], l.said⟩ = l.heads ++ [c] := by
  have hnone : l.messagesIn c.id = [] := by
    rw [messagesIn, List.filter_eq_nil_iff]
    intro m hm heq
    obtain ⟨d, hd, hdm⟩ := h.begun m hm
    exact hc d hd (hdm.trans (of_decide_eq_true heq))
  have hhead : l.head c = c := by rw [head, hnone]; rfl
  rw [heads, List.map_append, List.map_singleton]
  exact congrArg (fun d => l.heads ++ [d]) hhead

lemma heads_append (l : Ledger) (m : Message) : heads ⟨l.begun, l.said ++ [m]⟩ =
    l.heads.map fun c => if c.id = m.conversation then c.touch m.createdAt else c := by
  rw [heads, heads, List.map_map]
  apply List.map_congr_left
  intro c _
  have hid : (l.head c).id = c.id := rfl
  rw [Function.comp_apply, hid]
  split
  · rename_i heq
    have hsaid : messagesIn ⟨l.begun, l.said ++ [m]⟩ c.id = l.messagesIn c.id ++ [m] := by
      simp [messagesIn, heq]
    rw [head, hsaid, List.map_append, List.foldl_append]
    rfl
  · rename_i hne
    have hsaid : messagesIn ⟨l.begun, l.said ++ [m]⟩ c.id = l.messagesIn c.id := by
      simp [messagesIn, Ne.symm hne]
    rw [head, hsaid]
    rfl

end Ledger

/-! ### Reading off the heads -/

/-- Sorting by time leaves the messages of one instant in their order. -/
lemma filter_mergeSort_older (ms : List Message) (t : Time) :
    (ms.mergeSort older).filter (·.createdAt = t) = ms.filter (·.createdAt = t) := by
  have htime : ∀ m ∈ ms.filter (·.createdAt = t), m.createdAt = t := fun m hm =>
    of_decide_eq_true (List.mem_filter.mp hm).2
  have hsame : (ms.filter (·.createdAt = t)).Pairwise fun a b => older a b = true := by
    refine List.Pairwise.imp_of_mem ?_ (List.pairwise_of_forall fun _ _ => trivial)
    intro a b ha hb _
    rw [older, htime a ha, htime b hb, Time.le_refl]
  have hsub : (ms.filter (·.createdAt = t)).Sublist (ms.mergeSort older) :=
    List.sublist_mergeSort older_trans older_total hsame List.filter_sublist
  have hsub := hsub.filter (·.createdAt = t)
  simp only [List.filter_filter, Bool.and_self] at hsub
  exact (hsub.eq_of_length ((List.mergeSort_perm ms older).filter _).length_eq.symm).symm

namespace Conversations
variable {s : Conversations} {l : Ledger}

/-- What is found are the heads of the conversations. -/
def Finds (s : Conversations) (l : Ledger) : Prop :=
  ∀ id, ∃ o, s.find id = .ok o ∧ ∀ d, o = some d ↔ d ∈ l.heads ∧ d.id = id

lemma Finds.head (h : s.Finds l) {d : Conversation} : s.find d.id = .ok (some d) ↔ d ∈ l.heads := by
  obtain ⟨o, ho, hd⟩ := h d.id
  rw [ho, Except.ok.injEq, hd]
  simp

lemma Finds.begun (h : s.Finds l) {c : Conversation} (hc : c ∈ l.begun) :
    ∃ d, s.find c.id = .ok (some d) ∧ l.IsHead c d :=
  ⟨l.head c, h.head.mpr (List.mem_map_of_mem hc), l.isHead_head c⟩

lemma Finds.absent (h : s.Finds l) {id : ConversationId} (hid : ∀ c ∈ l.begun, c.id ≠ id) : s.find id = .ok none := by
  obtain ⟨o, ho, hd⟩ := h id
  rw [ho]
  cases o with
  | none => rfl
  | some d =>
    obtain ⟨c, hc, heq⟩ := Ledger.exists_head_iff.mp ⟨d, (hd d).mp rfl⟩
    exact absurd heq (hid c hc)

/-- The heads of an owner's conversations, sorted and cut off, are a listing of them. -/
lemma Finds.lists (h : s.Finds l) (hsound : l.Sound) {p : Principal} {cs : List Conversation}
    (hcs : cs.Perm (l.heads.filter (·.isOwnedBy p))) (limit : Nat) :
    s.Lists p limit (l.owned p) ((cs.mergeSort newer).take limit) := by
  have hmem : ∀ {d}, d ∈ cs.mergeSort newer ↔ d ∈ l.heads ∧ d.owner = p := by
    intro d
    rw [List.mem_mergeSort, hcs.mem_iff, List.mem_filter, Memory.isOwnedBy_iff]
  have hsorted := List.pairwise_mergeSort newer_trans newer_total cs
  refine ⟨?_, ?_, ?_, ?_, ?_⟩
  · intro d hd
    obtain ⟨hhead, howner⟩ := hmem.mp (List.mem_of_mem_take hd)
    exact ⟨howner, h.head.mpr hhead⟩
  · have hids : ((l.heads.filter (·.isOwnedBy p)).map (·.id)).Nodup :=
      (l.ids_heads ▸ hsound.once).sublist (List.filter_sublist.map _)
    have hall : ((cs.mergeSort newer).map (·.id)).Nodup :=
      (((List.mergeSort_perm cs newer).trans hcs).map _).nodup_iff.mpr hids
    exact hall.sublist ((List.take_sublist _ _).map _)
  · exact hsorted.sublist (List.take_sublist _ _)
  · rw [List.length_take, List.length_mergeSort, hcs.length_eq, l.length_owned_heads]
  · intro d hd howner hout e he
    have hd : d ∈ cs.mergeSort newer := hmem.mpr ⟨h.head.mp hd, howner⟩
    rw [← List.take_append_drop limit (cs.mergeSort newer)] at hd hsorted
    have hdrop := (List.mem_append.mp hd).resolve_left hout
    exact (List.pairwise_append.mp hsorted).2.2 e he d hdrop

end Conversations

/-! ### The store in memory -/

namespace Memory

/-- The store in memory holds what its ledger says. -/
structure Keeps (s : Memory) (l : Ledger) : Prop where
  wellFormed : s.WellFormed
  sound : l.Sound
  held : s.held.Perm l.heads
  messages : s.messages = l.said

namespace Keeps
variable {s s' : Memory} {l : Ledger}

lemma empty : Keeps .empty .empty := ⟨wellFormed_empty, Ledger.sound_empty, .refl _, rfl⟩

lemma find?_eq_some (h : s.Keeps l) {id : ConversationId} {d : Conversation} :
    s.find? id = some d ↔ d ∈ l.heads ∧ d.id = id := by
  rw [← h.held.mem_iff]
  constructor
  · exact fun hd => ⟨h.wellFormed.mem_held hd, h.wellFormed.named hd⟩
  · rintro ⟨hd, rfl⟩
    exact h.wellFormed.find?_of_mem hd

lemma exists_begun (h : s.Keeps l) {id : ConversationId} {d : Conversation} (hd : s.find? id = some d) :
    ∃ c ∈ l.begun, c.id = id := Ledger.exists_head_iff.mp ⟨d, h.find?_eq_some.mp hd⟩

lemma create (h : s.Keeps l) (c : Conversation) :
    (s.create c).2.Keeps (l.note (.create c) (s.create c).1) := by
  cases hc : s.find? c.id with
  | some d => rw [create_present hc]; exact h
  | none =>
    have hnew : ∀ d ∈ l.begun, d.id ≠ c.id := by
      intro d hd heq
      obtain ⟨e, he, heq⟩ := Ledger.exists_head_iff.mpr ⟨d, hd, heq⟩
      rw [h.find?_eq_some.mpr ⟨he, heq⟩] at hc
      cases hc
    rw [create_absent hc]
    refine ⟨h.wellFormed.insert rfl _, h.sound.create hnew, ?_, h.messages⟩
    rw [held_insert_absent hc, Ledger.note, h.sound.heads_create hnew]
    exact h.held.append_right _

lemma append (h : s.Keeps l) (m : Message) : (s.append m).2.Keeps (l.note (.append m) (s.append m).1) := by
  cases hc : s.find? m.conversation with
  | none => rw [append_absent hc]; exact h
  | some d =>
    obtain ⟨c, hbegun, hid⟩ := h.exists_begun hc
    rw [append_present hc]
    have hnamed : (d.touch m.createdAt).id = m.conversation := h.wellFormed.named (c := d) hc
    refine ⟨h.wellFormed.insert hnamed _, h.sound.append hbegun hid, ?_, ?_⟩
    · rw [h.wellFormed.held_touch hc, Ledger.note, l.heads_append]
      exact h.held.map _
    · rw [Ledger.note, h.messages]

lemma serve (h : s.Keeps l) (o : Operation) : (s.after o).Keeps (l.note o ((Conversations.memory s).serve o).1) := by
  cases o with
  | create c => exact h.create c
  | append m => exact h.append m
  | _ => exact h

lemma run (h : s.Keeps l) (os : List Operation) :
    ∃ s', (Conversations.run (.memory s, l) os).1 = .memory s' ∧ s'.Keeps (Conversations.run (.memory s, l) os).2 := by
  induction os generalizing s l with
  | nil => exact ⟨s, rfl, h⟩
  | cons o os ih =>
    rw [Conversations.run, serve_snd]
    exact ih (h.serve o)

lemma reordered (h : s.Keeps l) (hs : s.Reordered s') : s'.Keeps l where
  wellFormed := by
    refine ⟨(hs.entries.map Prod.fst).nodup_iff.mp h.wellFormed.distinct, ?_⟩
    intro id c hc
    exact h.wellFormed.named (hs.find?_eq h.wellFormed id ▸ hc)
  sound := h.sound
  held := (hs.entries.map Prod.snd).symm.trans h.held
  messages := hs.messages ▸ h.messages

lemma finds (h : s.Keeps l) : (Conversations.memory s).Finds l := fun id => ⟨s.find? id, rfl, fun _ => h.find?_eq_some⟩

lemma faithful (h : s.Keeps l) : (Conversations.memory s).Faithful l where
  once := h.sound.once
  referenced := by
    intro m hm
    obtain ⟨c, hc, heq⟩ := h.sound.begun m (h.messages ▸ hm)
    obtain ⟨d, hd⟩ := Ledger.exists_head_iff.mpr ⟨c, hc, heq⟩
    exact ⟨d, h.find?_eq_some.mpr hd⟩
  begun _ hc := h.finds.begun hc
  absent _ hid := h.finds.absent hid
  said id := ⟨s.messagesOf id, rfl, by rw [Memory.messagesOf, h.messages]; rfl⟩
  listed p limit _ := ⟨_, rfl, h.finds.lists h.sound (h.held.filter _) limit⟩
  others := by
    intro m id hne
    cases hc : s.find? m.conversation with
    | none => simp only [Conversations.append, append_absent hc, and_self]
    | some c =>
      simp only [Conversations.append, append_present hc, Conversations.find, Conversations.messagesOf]
      refine ⟨?_, ?_⟩
      · rw [Memory.find?, Association.find?_insert, if_neg hne]
        rfl
      · simp [Memory.messagesOf, hne.symm]

end Keeps
end Memory

/-! ### The store in tables -/

lemma ConversationRow.ofConversation_cut {c : Conversation} (hcreated : c.createdAt.Recordable)
    (hupdated : c.updatedAt.Recordable) : ofConversation c.cut = ofConversation c := by
  simp only [ofConversation, Conversation.cut, Time.microText_cut hcreated, Time.microText_cut hupdated]

lemma MessageRow.ofMessage_cut {m : Message} (h : m.createdAt.Recordable) : ofMessage m.cut = (ofMessage m).held := by
  simp only [ofMessage, held, Message.cut, Time.microText_cut h]

lemma MessageRow.held_held (r : MessageRow) : r.held.held = r.held := by
  have hreal : ∀ x y, columnReal x = some y → columnReal y = some y := by
    intro x y h
    cases x with
    | nan => cases h
    | infinite negative => rw [← Option.some.inj h]; rfl
    | finite negative mantissa exponent =>
      cases mantissa with
      | zero => rw [← Option.some.inj h]; rfl
      | succ n => rw [← Option.some.inj h]; rfl
  have hlatency : (r.latency.bind columnReal).bind columnReal = r.latency.bind columnReal := by
    cases hl : r.latency.bind columnReal with
    | none => rfl
    | some y =>
      obtain ⟨x, -, hx⟩ := Option.bind_eq_some_iff.mp hl
      exact hreal x y hx
  simp only [held, hlatency]

namespace Relational

/-- The tables hold the rows of what their ledger says. -/
structure Keeps (t : Relational) (l : Ledger) : Prop where
  isOpen : t.closed = false
  sound : l.Sound
  conversations : t.conversations = l.heads.map .ofConversation
  messages : t.messages = l.said.map .ofMessage
  headsExact : ∀ c ∈ l.heads, c.Exact
  saidExact : ∀ m ∈ l.said, m.createdAt.Exact

namespace Keeps
variable {t : Relational} {l : Ledger}

lemma empty : Relational.empty.Keeps .empty :=
  ⟨rfl, Ledger.sound_empty, rfl, rfl, List.forall_mem_nil _, List.forall_mem_nil _⟩

lemma any_begun (h : t.Keeps l) (id : ConversationId) :
    t.conversations.any (·.id = id.text) = l.begun.any (·.id = id) := by
  rw [h.conversations, any_row, Ledger.heads, List.any_map]
  rfl

lemma create (h : t.Keeps l) {c : Conversation} (hc : c.Exact) :
    (t.create c).2.Keeps (l.note (.create c) (t.create c).1) := by
  have hany : t.conversations.any (·.id = (ConversationRow.ofConversation c).id) = l.begun.any (·.id = c.id) :=
    h.any_begun c.id
  cases hid : l.begun.any (·.id = c.id) with
  | true =>
    have hcreate : t.create c = (.error (.queryFailed "INSERT conversation failed"), t) := by
      rw [Relational.create, insertConversation?, h.isOpen, hany, hid]
      rfl
    rw [hcreate]
    exact h
  | false =>
    have hcreate : t.create c = (.ok (), ⟨t.conversations ++ [.ofConversation c], t.messages, false⟩) := by
      rw [Relational.create, insertConversation?, h.isOpen, hany, hid]
      rfl
    have hnew : ∀ d ∈ l.begun, d.id ≠ c.id := by simpa using hid
    have hheads := h.sound.heads_create hnew
    rw [hcreate]
    refine ⟨rfl, h.sound.create hnew, ?_, h.messages, ?_, h.saidExact⟩
    · rw [Ledger.note, hheads, List.map_append, h.conversations]
      rfl
    · rw [Ledger.note, hheads]
      intro d hd
      rcases List.mem_append.mp hd with hd | hd
      · exact h.headsExact d hd
      · exact List.mem_singleton.mp hd ▸ hc

lemma append (h : t.Keeps l) {m : Message} (hm : m.createdAt.Exact)
    (hheld : (MessageRow.ofMessage m).held = .ofMessage m) :
    (t.append m).2.Keeps (l.note (.append m) (t.append m).1) := by
  have hany : t.conversations.any (·.id = (MessageRow.ofMessage m).conversationId) =
      l.begun.any (·.id = m.conversation) := h.any_begun m.conversation
  cases hrefused : t.messages.any (·.id = (MessageRow.ofMessage m).id) || !l.begun.any (·.id = m.conversation) with
  | true =>
    have happend : t.append m = (.error (.queryFailed "INSERT message failed"), t) := by
      rw [Relational.append, insertMessage?, h.isOpen, Bool.false_or, hany, hrefused]
      rfl
    rw [happend]
    exact h
  | false =>
    have happend : t.append m = (.ok (), touch ⟨t.conversations, t.messages ++ [.ofMessage m], false⟩
        m.conversation.text m.createdAt.microText) := by
      rw [Relational.append, insertMessage?, h.isOpen, Bool.false_or, hany, hrefused, hheld]
      rfl
    rw [Bool.or_eq_false_iff, Bool.not_eq_false'] at hrefused
    obtain ⟨c, hc, hcm⟩ := List.any_eq_true.mp hrefused.2
    rw [happend]
    refine ⟨rfl, h.sound.append hc (of_decide_eq_true hcm), ?_, ?_, ?_, ?_⟩
    · rw [Ledger.note, l.heads_append, h.conversations]
      exact touch_rows h.headsExact _ hm.1 _ _
    · rw [Ledger.note, List.map_append, ← h.messages]
      rfl
    · rw [Ledger.note, l.heads_append]
      intro d hd
      obtain ⟨e, he, rfl⟩ := List.mem_map.mp hd
      split
      · exact (h.headsExact e he).touch hm
      · exact h.headsExact e he
    · intro x hx
      rcases List.mem_append.mp hx with hx | hx
      · exact h.saidExact x hx
      · exact List.mem_singleton.mp hx ▸ hm

end Keeps

/-- Appending to one conversation changes no other. -/
lemma append_others (t : Relational) {m : Message} {id : ConversationId} (hne : id ≠ m.conversation) :
    (t.append m).2.find id = t.find id ∧ (t.append m).2.messagesOf id = t.messagesOf id := by
  have hid : ∀ {s : String}, s = id.text → s ≠ m.conversation.text :=
    fun heq heq' => hne (ConversationId.text_inj.mp (heq.symm.trans heq'))
  have hfind : ∀ s : Relational, (s.touch m.conversation.text m.createdAt.microText).find id = s.find id := by
    intro s
    have hrow : (s.touch m.conversation.text m.createdAt.microText).conversations.find? (·.id = id.text) =
        s.conversations.find? (·.id = id.text) := by
      simp only [touch]
      induction s.conversations with
      | nil => rfl
      | cons r rs ih =>
        rw [List.map_cons, List.find?_cons, List.find?_cons, ih]
        by_cases hr : r.id = m.conversation.text
        · have hother : r.id ≠ id.text := fun heq => hid heq hr
          simp [hr, hr ▸ hother]
        · rw [if_neg hr]
    unfold Relational.find
    rw [hrow]
    rfl
  unfold Relational.append
  cases hclosed : t.closed with
  | true => exact ⟨rfl, rfl⟩
  | false =>
    rw [if_neg Bool.false_ne_true]
    cases hinsert : t.insertMessage? (.ofMessage m) with
    | none => exact ⟨rfl, rfl⟩
    | some s =>
      unfold insertMessage? at hinsert
      split at hinsert
      · cases hinsert
      · obtain rfl := Option.some.inj hinsert
        refine ⟨hfind _, ?_⟩
        have hrow : decide ((MessageRow.ofMessage m).held.conversationId = id.text) = false :=
          decide_eq_false fun heq => hid heq rfl
        simp only [Relational.messagesOf, touch, List.filter_append, List.filter_cons, hrow]
        simp

lemma create_cut (t : Relational) {c : Conversation} (hcreated : c.createdAt.Recordable)
    (hupdated : c.updatedAt.Recordable) : t.create c.cut = t.create c := by
  rw [create, create, ConversationRow.ofConversation_cut hcreated hupdated]

lemma append_cut (t : Relational) {m : Message} (h : m.createdAt.Recordable) : t.append m.cut = t.append m := by
  have hinsert : t.insertMessage? (.ofMessage m.cut) = t.insertMessage? (.ofMessage m) := by
    rw [insertMessage?, MessageRow.ofMessage_cut h, MessageRow.held_held]
    rfl
  have htime : m.cut.createdAt.microText = m.createdAt.microText := Time.microText_cut h
  rw [append, append, hinsert, htime]
  rfl

namespace Keeps
variable {t : Relational} {l : Ledger}

lemma serve (h : t.Keeps l.cut) {o : Operation} (ho : o.Recordable) :
    ∃ t', ((Conversations.relational t).serve o).2 = .relational t' ∧
      t'.Keeps (l.note o ((Conversations.relational t).serve o).1).cut := by
  cases o with
  | create c =>
    obtain ⟨hcreated, hupdated⟩ := ho
    have hnote : ∀ a, (l.note (.create c) a).cut = l.cut.note (.create c.cut) a := by
      intro a
      cases a <;> simp [Ledger.note, Ledger.cut]
    refine ⟨_, rfl, ?_⟩
    have hnext := h.create (c := c.cut) ⟨hcreated.exact_cut, hupdated.exact_cut⟩
    rw [create_cut t hcreated hupdated] at hnext
    rw [hnote]
    exact hnext
  | append m =>
    have hnote : ∀ a, (l.note (.append m) a).cut = l.cut.note (.append m.cut) a := by
      intro a
      cases a <;> simp [Ledger.note, Ledger.cut]
    refine ⟨_, rfl, ?_⟩
    have hnext := h.append (m := m.cut) (Time.Recordable.exact_cut ho)
      (by rw [MessageRow.ofMessage_cut ho, MessageRow.held_held])
    rw [append_cut t ho] at hnext
    rw [hnote]
    exact hnext
  | _ => exact ⟨t, rfl, h⟩

lemma run (h : t.Keeps l.cut) {os : List Operation} (hos : ∀ o ∈ os, o.Recordable) :
    ∃ t', (Conversations.run (.relational t, l) os).1 = .relational t' ∧
      t'.Keeps (Conversations.run (.relational t, l) os).2.cut := by
  induction os generalizing t l with
  | nil => exact ⟨t, rfl, h⟩
  | cons o os ih =>
    obtain ⟨t', ht', hnext⟩ := h.serve (hos o List.mem_cons_self)
    rw [Conversations.run, ht']
    exact ih hnext fun o ho => hos o (List.mem_cons_of_mem _ ho)

lemma finds (h : t.Keeps l) : (Conversations.relational t).Finds l := by
  intro id
  have hfound : ∀ {d}, l.heads.find? (·.id = id) = some d → d ∈ l.heads ∧ d.id = id :=
    fun hd => ⟨List.mem_of_find?_eq_some hd, by simpa using List.find?_some hd⟩
  refine ⟨_, find_rows h.isOpen h.conversations h.headsExact id, fun d => ⟨hfound, ?_⟩⟩
  rintro ⟨hd, hid⟩
  cases he : l.heads.find? (·.id = id) with
  | none => exact absurd hid (by simpa using List.find?_eq_none.mp he d hd)
  | some e =>
    obtain ⟨hmem, heid⟩ := hfound he
    rw [h.sound.heads_inj hmem hd (heid.trans hid.symm)]

lemma faithful (h : t.Keeps l) : (Conversations.relational t).Faithful l where
  once := h.sound.once
  referenced := by
    intro r hr
    rw [h.messages] at hr
    obtain ⟨m, hm, rfl⟩ := List.mem_map.mp hr
    obtain ⟨d, hd, heq⟩ := Ledger.exists_head_iff.mpr (h.sound.begun m hm)
    exact ⟨.ofConversation d, h.conversations ▸ List.mem_map_of_mem hd, congrArg ConversationId.text heq⟩
  begun _ hc := h.finds.begun hc
  absent _ hid := h.finds.absent hid
  said id := ⟨_, messagesOf_rows h.isOpen h.messages h.saidExact id, List.mergeSort_perm _ _,
    List.pairwise_mergeSort older_trans older_total _, filter_mergeSort_older _⟩
  listed p limit hlimit := by
    refine ⟨_, ownedBy_rows h.isOpen h.conversations h.headsExact p limit, ?_⟩
    have htake : takeLimit limit ((l.heads.filter (·.isOwnedBy p)).mergeSort newer) =
        ((l.heads.filter (·.isOwnedBy p)).mergeSort newer).take limit := by
      obtain ⟨hword, hlimit⟩ := hlimit
      simp only [takeLimit, Nat.mod_eq_of_lt hword]
      split
      · rfl
      · rw [List.take_of_length_le]
        rw [List.length_mergeSort, l.length_owned_heads]
        omega
    rw [htake]
    exact h.finds.lists h.sound (.refl _) limit
  others _ _ hne := append_others t hne

end Keeps
end Relational

/-- After any operations on an empty store, its answers are those of its ledger: in memory whatever the order in which
the map goes through its entries, in tables to the microsecond. -/
theorem faithful_run {os : List Operation} (hos : ∀ o ∈ os, o.Recordable) :
    (∀ s, (Conversations.run (.memory .empty, .empty) os).1.Reordered s →
      s.Faithful (Conversations.run (.memory .empty, .empty) os).2) ∧
    (Conversations.run (.relational .empty, .empty) os).1.Faithful
      (Conversations.run (.relational .empty, .empty) os).2.cut := by
  constructor
  · intro s hs
    obtain ⟨m, hm, hkeeps⟩ := Memory.Keeps.empty.run os
    rw [hm] at hs
    obtain ⟨hs⟩ := hs
    exact (hkeeps.reordered hs).faithful
  · obtain ⟨t, ht, hkeeps⟩ := Relational.Keeps.run (l := .empty) Relational.Keeps.empty hos
    rw [ht]
    exact hkeeps.faithful

/-- Alice says three things, the second earlier than the first and the third under the identifier of the first. What
she says to a conversation that nobody has begun is refused, and so is beginning hers again. -/
def unordered : List Operation :=
  [.create (.start ⟨⟨1⟩⟩ ⟨60, 1500⟩ ⟨"alice"⟩), .append (.ofUser ⟨7⟩ ⟨62, 0⟩ ⟨⟨1⟩⟩ "first"),
    .append (.ofUser ⟨8⟩ ⟨61, 0⟩ ⟨⟨1⟩⟩ "second"), .append (.ofUser ⟨7⟩ ⟨59, 1000000000⟩ ⟨⟨1⟩⟩ "third"),
    .append (.ofUser ⟨9⟩ ⟨63, 0⟩ ⟨⟨2⟩⟩ "lost"), .create (.start ⟨⟨1⟩⟩ ⟨64, 0⟩ ⟨"bob"⟩)]

/-- Tables refuse the third message, memory takes it. -/
theorem faithful_run_unordered :
    (∀ o ∈ unordered, o.Recordable) ∧
    ((∀ s, (Conversations.run (.memory .empty, .empty) unordered).1.Reordered s →
      s.Faithful (Conversations.run (.memory .empty, .empty) unordered).2) ∧
    (Conversations.run (.relational .empty, .empty) unordered).1.Faithful
      (Conversations.run (.relational .empty, .empty) unordered).2.cut) ∧
    (Conversations.run (.memory .empty, .empty) unordered).2.said.map (·.content) = ["first", "second", "third"] ∧
    (Conversations.run (.relational .empty, .empty) unordered).2.said.map (·.content) = ["first", "second"] := by
  have hrecordable : ∀ {s : Int} {n : Nat}, 0 ≤ s → s < 86400 →
      n < 1000000000 ∨ n < 2000000000 ∧ s % 60 = 59 → Time.Recordable ⟨s, n⟩ := by
    intro s n hs hs' hn
    have hday : s / 86400 = 0 := by omega
    exact ⟨by rw [hday]; decide, hn⟩
  have hos : ∀ o ∈ unordered, o.Recordable := by
    intro o ho
    simp only [unordered, List.mem_cons, List.not_mem_nil, or_false] at ho
    rcases ho with rfl | rfl | rfl | rfl | rfl | rfl
    · exact ⟨hrecordable (by decide) (by decide) (by decide), hrecordable (by decide) (by decide) (by decide)⟩
    · exact hrecordable (by decide) (by decide) (by decide)
    · exact hrecordable (by decide) (by decide) (by decide)
    · exact hrecordable (by decide) (by decide) (by decide)
    · exact hrecordable (by decide) (by decide) (by decide)
    · exact ⟨hrecordable (by decide) (by decide) (by decide), hrecordable (by decide) (by decide) (by decide)⟩
  exact ⟨hos, faithful_run hos, by decide, by decide +kernel⟩

end Store
end CompletionGateway
