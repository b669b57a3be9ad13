import Mathlib
import CompletionGateway.Proofs.Store.Listings
import CompletionGateway.Proofs.Uuid
import CompletionGateway.Store.Relational

/-! The tables as an image of the store in memory. Records are read back from their rows, and each operation on the
tables is the image of the one on the records. -/
namespace CompletionGateway

lemma ConversationId.text_inj {id id' : ConversationId} : id.text = id'.text ↔ id = id' := by
  obtain ⟨u⟩ := id
  obtain ⟨u'⟩ := id'
  rw [ConversationId.mk.injEq]
  exact Uuid.text_injective.eq_iff

lemma Principal.name_inj {p q : Principal} : p.name = q.name ↔ p = q := by
  obtain ⟨n⟩ := p
  obtain ⟨m⟩ := q
  rw [Principal.mk.injEq]

/-- The times of the conversation are kept in full by their texts. -/
def Conversation.Exact (c : Conversation) : Prop := c.createdAt.Exact ∧ c.updatedAt.Exact

/-- The time of the message is kept in full by its text, and so is its latency by a column of reals. -/
def Message.Exact (m : Message) : Prop :=
  m.createdAt.Exact ∧ ∀ l ∈ m.latency, l.isFinite = true ∧ l.isPositive = true

lemma Conversation.Exact.touch {c : Conversation} (h : c.Exact) {moment : Time} (hmoment : moment.Exact) :
    (c.touch moment).Exact := by
  refine ⟨h.1, ?_⟩
  simp only [Conversation.touch, Time.latest]
  split
  · exact hmoment
  · exact h.2

namespace Store

/-! ### Rows and records -/

lemma readUuid_text (u : Uuid) : readUuid u.text = .ok u := by rw [readUuid, Uuid.parse?_text]

lemma readTime_microText {t : Time} (h : t.Recordable) : readTime t.microText = .ok t.cut := by
  rw [readTime, Time.parseStrict?_microText h]

lemma readRole_name (r : Role) : readRole r.name = .ok r := by rw [readRole, Role.ofName_name]

lemma readCount_toNat (k : UInt32) : readCount (k.toNat : Int) = some k := by
  have hlt := k.toNat_lt
  unfold readCount
  rw [if_pos (by omega), Int.toNat_natCast, UInt32.ofNat_toNat]

lemma bind_readCount (n : Option UInt32) : (n.map fun k => (k.toNat : Int)).bind readCount = n := by
  cases n with
  | none => rfl
  | some k => rw [Option.map_some, Option.bind_some, readCount_toNat]

lemma read_ofConversation {c : Conversation} (h : c.Exact) : (ConversationRow.ofConversation c).read = .ok c := by
  obtain ⟨hcreated, hupdated⟩ := h
  have hid : readUuid c.id.text = .ok c.id.uuid := readUuid_text c.id.uuid
  simp only [ConversationRow.read, ConversationRow.ofConversation, hid, readTime_microText hcreated.1,
    readTime_microText hupdated.1, hcreated.cut_eq, hupdated.cut_eq]
  rfl

lemma held_ofMessage {m : Message} (h : m.Exact) : (MessageRow.ofMessage m).held = .ofMessage m := by
  have hlatency : m.latency.bind columnReal = m.latency := by
    cases hl : m.latency with
    | none => rfl
    | some l =>
      obtain ⟨hfinite, hpositive⟩ := h.2 l hl
      cases l with
      | finite negative mantissa exponent =>
        cases mantissa with
        | zero => cases negative <;> cases hpositive
        | succ _ => rfl
      | _ => cases hfinite
  simp only [MessageRow.held, MessageRow.ofMessage, hlatency]

lemma read_ofMessage {m : Message} (h : m.createdAt.Exact) : (MessageRow.ofMessage m).read = .ok m := by
  have hid : readUuid m.conversation.text = .ok m.conversation.uuid := readUuid_text m.conversation.uuid
  simp only [MessageRow.read, MessageRow.ofMessage, readUuid_text, hid, readRole_name, readTime_microText h.1,
    h.cut_eq, bind_readCount]
  rfl

/-- Rows of records that are read back one by one are read back together. -/
lemma mapM_read {α ρ ε : Type} {read : ρ → Except ε α} {row : α → ρ} {xs : List α}
    (h : ∀ x ∈ xs, read (row x) = .ok x) : (xs.map row).mapM read = .ok xs := by
  induction xs with
  | nil => rfl
  | cons x xs ih =>
    rw [List.map_cons, List.mapM_cons, h x List.mem_cons_self, ih fun y hy => h y (List.mem_cons_of_mem _ hy)]
    rfl

/-- Where the database takes a limit for none, so few rows are below it anyway. -/
lemma takeLimit_eq {α : Type} {limit : Nat} (hlimit : limit < 2 ^ 64) {xs : List α} (hxs : xs.length < 2 ^ 63) :
    Relational.takeLimit limit xs = xs.take limit := by
  simp only [Relational.takeLimit, Nat.mod_eq_of_lt hlimit]
  split
  · rfl
  · rw [List.take_of_length_le (by omega)]

/-- The later text is the text of the later time. -/
lemma maxText_microText {a b : Time} (ha : a.Recordable) (hb : b.Recordable) :
    Relational.maxText a.microText b.microText = (Time.latest a b).microText := by
  have hab := Time.microText_lt_iff ha hb
  have hba := Time.microText_lt_iff hb ha
  rw [← Bool.not_eq_true, Time.le_cut_iff] at hab hba
  unfold Relational.maxText Time.latest
  by_cases hle : Time.le a b = true
  · rw [if_pos hle]
    by_cases hlt : a.microText < b.microText
    · rw [if_pos hlt]
    · -- the times are the same to the microsecond
      rw [if_neg hlt]
      rw [Time.le_iff] at hle
      exact String.le_antisymm (String.not_lt.mp (hba.not.mpr (by omega))) (String.not_lt.mp hlt)
  · rw [if_neg hle, if_neg]
    rw [Time.le_iff] at hle
    rw [hab]
    omega

/-! ### Tables of rows -/

/-- Whether a message is at least as old as another. -/
def older (a b : Message) : Bool := Time.le a.createdAt b.createdAt

lemma older_trans (a b c : Message) (hab : older a b = true) (hbc : older b c = true) : older a c = true :=
  Time.le_trans hab hbc

lemma older_total (a b : Message) : (older a b || older b a) = true := Time.le_total a.createdAt b.createdAt

namespace Relational
variable {t : Relational} {cs : List Conversation} {ms : List Message}

lemma any_row (cs : List Conversation) (id : ConversationId) :
    (cs.map ConversationRow.ofConversation).any (·.id = id.text) = cs.any (·.id = id) := by
  rw [List.any_map]
  congr 1
  funext c
  exact decide_eq_decide.mpr ConversationId.text_inj

lemma find?_row (cs : List Conversation) (id : ConversationId) :
    (cs.map ConversationRow.ofConversation).find? (·.id = id.text) =
      (cs.find? (·.id = id)).map .ofConversation := by
  rw [List.find?_map]
  congr 2
  funext c
  exact decide_eq_decide.mpr ConversationId.text_inj

lemma find_rows (hopen : t.closed = false) (hcs : t.conversations = cs.map .ofConversation)
    (hexact : ∀ c ∈ cs, c.Exact) (id : ConversationId) : t.find id = .ok (cs.find? (·.id = id)) := by
  unfold Relational.find
  rw [hopen, if_neg Bool.false_ne_true, hcs, find?_row]
  cases hc : cs.find? (·.id = id) with
  | none => rfl
  | some c =>
    simp only [Option.map_some, read_ofConversation (hexact c (List.mem_of_find?_eq_some hc))]
    rfl

/-- Touching the row of a conversation is touching the conversation. -/
lemma touch_rows (hexact : ∀ c ∈ cs, c.Exact) (id : ConversationId) {moment : Time} (hmoment : moment.Recordable)
    (rows : List MessageRow) (closed : Bool) :
    (touch ⟨cs.map .ofConversation, rows, closed⟩ id.text moment.microText).conversations =
      (cs.map fun c => if c.id = id then c.touch moment else c).map .ofConversation := by
  simp only [touch, List.map_map]
  apply List.map_congr_left
  intro c hc
  have hiff : (ConversationRow.ofConversation c).id = id.text ↔ c.id = id := ConversationId.text_inj
  simp only [Function.comp_apply, hiff]
  split
  · have hmax := maxText_microText (hexact c hc).2.1 hmoment
    simp only [ConversationRow.ofConversation, Conversation.touch, hmax]
  · rfl

lemma messagesOf_rows (hopen : t.closed = false) (hms : t.messages = ms.map .ofMessage)
    (hexact : ∀ m ∈ ms, m.createdAt.Exact) (id : ConversationId) :
    t.messagesOf id = .ok ((ms.filter (·.conversation = id)).mergeSort older) := by
  have hrows : (t.messages.filter fun r => r.conversationId = id.text) =
      (ms.filter (·.conversation = id)).map .ofMessage := by
    rw [hms, List.filter_map]
    congr 1
    apply List.filter_congr
    intro m _
    exact decide_eq_decide.mpr ConversationId.text_inj
  have hexact' : ∀ m ∈ ms.filter (·.conversation = id), m.createdAt.Exact :=
    fun m hm => hexact m (List.mem_filter.mp hm).1
  have hsort : ((ms.filter (·.conversation = id)).mergeSort older).map .ofMessage =
      ((ms.filter (·.conversation = id)).map MessageRow.ofMessage).mergeSort fun a b => !(b.createdAt < a.createdAt) := by
    apply List.map_mergeSort
    intro a ha b hb
    have hlt := Time.microText_lt_iff (hexact' b hb).1 (hexact' a ha).1
    rw [(hexact' a ha).cut_eq, (hexact' b hb).cut_eq] at hlt
    cases hle : Time.le a.createdAt b.createdAt <;> simp [MessageRow.ofMessage, older, hlt, hle]
  unfold Relational.messagesOf
  rw [hopen, if_neg Bool.false_ne_true, hrows]
  dsimp only
  rw [← hsort]
  exact mapM_read fun m hm => read_ofMessage (hexact' m (List.mem_mergeSort.mp hm))

lemma takeLimit_sublist {α : Type} (limit : Nat) (xs : List α) : (takeLimit limit xs).Sublist xs := by
  unfold takeLimit
  dsimp only
  split
  · exact List.take_sublist _ _
  · exact List.Sublist.refl _

lemma map_takeLimit {α β : Type} (f : α → β) (limit : Nat) (xs : List α) :
    (takeLimit limit xs).map f = takeLimit limit (xs.map f) := by
  unfold takeLimit
  dsimp only
  split
  · exact List.map_take
  · rfl

lemma ownedBy_rows (hopen : t.closed = false) (hcs : t.conversations = cs.map .ofConversation)
    (hexact : ∀ c ∈ cs, c.Exact) (p : Principal) (limit : Nat) :
    t.ownedBy p limit = .ok (takeLimit limit ((cs.filter (·.isOwnedBy p)).mergeSort newer)) := by
  have hrows : (t.conversations.filter fun r => r.userId = p.name) =
      (cs.filter (·.isOwnedBy p)).map .ofConversation := by
    rw [hcs, List.filter_map]
    congr 1
    apply List.filter_congr
    intro c _
    rw [Bool.eq_iff_iff, Memory.isOwnedBy_iff, Function.comp_apply, decide_eq_true_eq]
    exact Principal.name_inj
  have hexact' : ∀ c ∈ cs.filter (·.isOwnedBy p), c.Exact := fun c hc => hexact c (List.mem_filter.mp hc).1
  have hsort : ((cs.filter (·.isOwnedBy p)).mergeSort newer).map .ofConversation =
      ((cs.filter (·.isOwnedBy p)).map ConversationRow.ofConversation).mergeSort
        fun a b => !(a.updatedAt < b.updatedAt) := by
    apply List.map_mergeSort
    intro a ha b hb
    have hlt := Time.microText_lt_iff (hexact' a ha).2.1 (hexact' b hb).2.1
    rw [(hexact' a ha).2.cut_eq, (hexact' b hb).2.cut_eq] at hlt
    cases hle : Time.le b.updatedAt a.updatedAt <;> simp [ConversationRow.ofConversation, newer, hlt, hle]
  unfold Relational.ownedBy
  rw [hopen, if_neg Bool.false_ne_true, hrows]
  dsimp only
  rw [← hsort, ← map_takeLimit]
  apply mapM_read
  intro c hc
  exact read_ofConversation (hexact' c (List.mem_mergeSort.mp ((takeLimit_sublist _ _).subset hc)))

end Relational

namespace Memory

lemma held_insert_absent {s : Memory} {id : ConversationId} (h : s.find? id = none) (c : Conversation)
    (ms : List Message) : held ⟨s.conversations.insert id c, ms⟩ = s.held ++ [c] := by
  have hid : s.conversations.contains id = false := Association.contains_eq_false.mpr h
  simp [held, Association.insert, hid]

lemma WellFormed.held_insert_present {s : Memory} (h : s.WellFormed) {id : ConversationId} {d : Conversation}
    (hd : s.find? id = some d) (c : Conversation) (ms : List Message) :
    held ⟨s.conversations.insert id c, ms⟩ = s.held.map fun x => if x.id = id then c else x := by
  have hid : s.conversations.contains id = true := Association.contains_iff.mpr ⟨d, hd⟩
  simp only [held, Association.insert, if_pos hid, List.map_map]
  apply List.map_congr_left
  intro e he
  simp only [Function.comp_apply, h.named_of_mem he]
  split <;> rfl

lemma WellFormed.held_touch {s : Memory} (h : s.WellFormed) {id : ConversationId} {c : Conversation}
    (hc : s.find? id = some c) (moment : Time) (ms : List Message) :
    held ⟨s.conversations.insert id (c.touch moment), ms⟩ =
      s.held.map fun x => if x.id = id then x.touch moment else x := by
  rw [h.held_insert_present hc]
  apply List.map_congr_left
  intro x hx
  split
  · rename_i hid
    rw [Option.some.inj ((h.find?_of_mem hx).symm.trans (hid ▸ hc))]
  · rfl

lemma WellFormed.find?_held {s : Memory} (h : s.WellFormed) (id : ConversationId) :
    s.held.find? (·.id = id) = s.find? id := by
  have hkey : ∀ e ∈ s.conversations.entries, decide (e.2.id = id) = decide (e.1 = id) := by
    intro e he
    rw [h.named_of_mem he]
  rw [held, List.find?_map, Memory.find?, Association.find?, ← List.find?_congr hkey]
  rfl

end Memory

/-- The tables hold the rows of the records in memory. -/
structure Mirrors (s : Memory) (t : Relational) : Prop where
  wellFormed : s.WellFormed
  isOpen : t.closed = false
  conversations : t.conversations = s.held.map .ofConversation
  messages : t.messages = s.messages.map .ofMessage
  conversationsExact : ∀ c ∈ s.held, c.Exact
  messagesExact : ∀ m ∈ s.messages, m.Exact
  /-- The messages of a conversation are in the order of their times. -/
  ordered : s.messages.Pairwise fun m m' => m.conversation = m'.conversation → Time.le m.createdAt m'.createdAt = true

namespace Mirrors
variable {s : Memory} {t : Relational}

lemma empty : Mirrors .empty .empty := by
  refine ⟨Memory.wellFormed_empty, rfl, rfl, rfl, ?_, ?_, List.Pairwise.nil⟩
  · intro c hc
    cases hc
  · intro m hm
    cases hm

lemma find (h : Mirrors s t) (id : ConversationId) : t.find id = .ok (s.find? id) := by
  rw [Relational.find_rows h.isOpen h.conversations h.conversationsExact, h.wellFormed.find?_held]

lemma any_row (h : Mirrors s t) (id : ConversationId) :
    t.conversations.any (·.id = id.text) = s.conversations.contains id := by
  rw [h.conversations, Relational.any_row, Bool.eq_iff_iff, Association.contains_iff, List.any_eq_true,
    ← List.find?_isSome, h.wellFormed.find?_held, Option.isSome_iff_exists]
  rfl

lemma create (h : Mirrors s t) {c : Conversation} (hc : c.Exact) :
    (t.create c).1.toOption = (s.create c).1.toOption ∧ Mirrors (s.create c).2 (t.create c).2 := by
  have hany : t.conversations.any (·.id = (ConversationRow.ofConversation c).id) = s.conversations.contains c.id :=
    h.any_row c.id
  unfold Relational.create Relational.insertConversation?
  rw [h.isOpen, Bool.false_or, hany]
  cases hf : s.find? c.id with
  | some d =>
    rw [Memory.create_present hf, Association.contains_iff.mpr ⟨d, hf⟩, if_pos rfl]
    exact ⟨rfl, h⟩
  | none =>
    rw [Memory.create_absent hf, Association.contains_eq_false.mpr hf, if_neg Bool.false_ne_true]
    refine ⟨rfl, h.wellFormed.insert rfl _, rfl, ?_, h.messages, ?_, h.messagesExact, h.ordered⟩
    · rw [Memory.held_insert_absent hf, List.map_append, h.conversations]
      rfl
    · rw [Memory.held_insert_absent hf]
      intro x hx
      rcases List.mem_append.mp hx with hx | hx
      · exact h.conversationsExact x hx
      · rw [List.mem_singleton.mp hx]
        exact hc

lemma append (h : Mirrors s t) {m : Message} (hm : m.Exact) (hnew : ∀ x ∈ s.messages, x.id ≠ m.id)
    (hlast : ∀ x ∈ s.messages, x.conversation = m.conversation → Time.le x.createdAt m.createdAt = true) :
    (t.append m).1.toOption = (s.append m).1.toOption ∧ Mirrors (s.append m).2 (t.append m).2 := by
  have hfresh : t.messages.any (·.id = (MessageRow.ofMessage m).id) = false := by
    rw [h.messages, List.any_map, List.any_eq_false]
    intro x hx heq
    exact hnew x hx (Uuid.text_injective (of_decide_eq_true heq))
  have hany : t.conversations.any (·.id = (MessageRow.ofMessage m).conversationId) =
      s.conversations.contains m.conversation := h.any_row m.conversation
  unfold Relational.append Relational.insertMessage?
  rw [h.isOpen, if_neg Bool.false_ne_true, hfresh, hany, Bool.false_or, Bool.false_or]
  cases hf : s.find? m.conversation with
  | none =>
    rw [Memory.append_absent hf, Association.contains_eq_false.mpr hf]
    exact ⟨rfl, h⟩
  | some c =>
    rw [Memory.append_present hf, Association.contains_iff.mpr ⟨c, hf⟩, held_ofMessage hm]
    have hid : c.id = m.conversation := h.wellFormed.named hf
    refine ⟨rfl, h.wellFormed.insert (c := c.touch m.createdAt) hid _, rfl, ?_, ?_, ?_, ?_, ?_⟩
    · rw [h.wellFormed.held_touch hf, h.conversations]
      exact Relational.touch_rows h.conversationsExact _ hm.1.1 _ _
    · simp [Relational.touch, h.messages]
    · rw [h.wellFormed.held_insert_present hf]
      intro x hx
      obtain ⟨y, hy, rfl⟩ := List.mem_map.mp hx
      split
      · exact (h.conversationsExact c (h.wellFormed.mem_held hf)).touch hm.1
      · exact h.conversationsExact y hy
    · intro x hx
      rcases List.mem_append.mp hx with hx | hx
      · exact h.messagesExact x hx
      · rw [List.mem_singleton.mp hx]
        exact hm
    · rw [List.pairwise_append]
      refine ⟨h.ordered, List.pairwise_singleton _ _, ?_⟩
      intro x hx y hy
      rw [List.mem_singleton.mp hy]
      exact hlast x hx

lemma messagesOf (h : Mirrors s t) (id : ConversationId) : t.messagesOf id = .ok (s.messagesOf id) := by
  have hsorted : (s.messagesOf id).Pairwise fun a b => older a b = true := by
    refine (h.ordered.filter _).imp_of_mem ?_
    intro a b ha hb hab
    have hconversation : ∀ {m}, m ∈ s.messagesOf id → m.conversation = id :=
      fun hm => of_decide_eq_true (List.mem_filter.mp hm).2
    exact hab ((hconversation ha).trans (hconversation hb).symm)
  rw [Relational.messagesOf_rows h.isOpen h.messages fun m hm => (h.messagesExact m hm).1]
  exact congrArg _ (List.mergeSort_of_pairwise hsorted)

lemma ownedBy (h : Mirrors s t) (p : Principal) {limit : Nat} (hlimit : limit < 2 ^ 64)
    (hdistinct : ((s.owned p).map (·.updatedAt)).Nodup) : t.ownedBy p limit = .ok (s.ownedBy p limit) := by
  -- so few that the database never takes the limit for none
  have hlength : (s.owned p).length ≤ 2 ^ 60 := by
    rw [← List.length_map (·.updatedAt)]
    refine Time.length_le_of_exact ?_ hdistinct
    intro x hx
    obtain ⟨c, hc, rfl⟩ := List.mem_map.mp hx
    exact (h.conversationsExact c (List.mem_filter.mp hc).1).2
  rw [Relational.ownedBy_rows h.isOpen h.conversations h.conversationsExact,
    takeLimit_eq hlimit (by rw [List.length_mergeSort]; exact hlength.trans_lt (by decide))]
  rfl

end Mirrors
end Store
end CompletionGateway
