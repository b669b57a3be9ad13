import CompletionGateway.Proofs.Store.Transactions

/-! Writes that fail. Refused by the store or disturbed on the way, they leave nothing behind: whatever is asked later is
answered as if they had not been made, and no message is ever entered without its conversation being touched. -/
namespace CompletionGateway.Store

def Operation.IsWrite : Operation → Prop
  | .create _ => True
  | .append _ => True
  | _ => False

/-- An operation, and the statements that the database is disturbed at should it come to them. -/
structure Attempt where
  operation : Operation
  disturbed : Statement → Bool

/-- What is answered to an operation. -/
abbrev Answer := (o : Operation) × Except StoreError o.Result

namespace Conversations

/-- A write to tables is made statement by statement. -/
def serveAmid (disturbed : Statement → Bool) :
    Conversations → (o : Operation) → Except StoreError o.Result × Conversations
  | .relational t, .create c =>
    let r := Session.perform disturbed (Operation.create c).statements ⟨t, none⟩
    (r.1, .relational r.2)
  | .relational t, .append m =>
    let r := Session.perform disturbed (Operation.append m).statements ⟨t, none⟩
    (r.1, .relational r.2)
  | s, o => s.serve o

/-- The answers to attempts that are made one after the other. -/
def answers : Conversations → List Attempt → List Answer
  | _, [] => []
  | s, x :: xs =>
    let r := s.serveAmid x.disturbed x.operation
    ⟨x.operation, r.1⟩ :: answers r.2 xs

/-- The store after the attempts. -/
def afterAll : Conversations → List Attempt → Conversations
  | s, [] => s
  | s, x :: xs => afterAll (s.serveAmid x.disturbed x.operation).2 xs

/-- The attempt is a write, and it fails. -/
def Fails (s : Conversations) (x : Attempt) : Prop :=
  x.operation.IsWrite ∧ ∃ e, (s.serveAmid x.disturbed x.operation).1 = .error e

/-- Tables that cannot be used or hold a message of the identifier already. -/
def Rejects : Conversations → Uuid → Prop
  | .memory _, _ => False
  | .relational t, id => t.closed = true ∨ ∃ r ∈ t.messages, r.id = id.text

/-- The store does not take a conversation that it has, nor a message to one that it has not. -/
def Refuses (s : Conversations) : Operation → Prop
  | .create c => s.find c.id ≠ .ok none
  | .append m => s.find m.conversation = .ok none ∨ s.Rejects m.id
  | _ => False

/-- The database is disturbed at one of the statements. -/
def IsDisturbed : Conversations → Attempt → Prop
  | .memory _, _ => False
  | .relational _, x => ∃ c ∈ x.operation.statements, x.disturbed c = true

variable {s : Conversations} {x : Attempt} {xs ys : List Attempt}

/-! ### Why writes fail -/

lemma find_memory_eq_none {m : Memory} {id : ConversationId} : find (.memory m) id = .ok none ↔ m.find? id = none := by
  rw [find, Except.ok.injEq]

lemma find_relational_eq_none {t : Relational} {id : ConversationId} :
    find (.relational t) id = .ok none ↔ t.closed = false ∧ ∀ r ∈ t.conversations, r.id ≠ id.text := by
  rw [find, Relational.find]
  cases hclosed : t.closed with
  | true => simp
  | false =>
    cases hrow : t.conversations.find? (·.id = id.text) with
    | none => simpa using hrow
    | some r =>
      have hid : r.id = id.text := by simpa using List.find?_some hrow
      have hread : r.read.map some ≠ .ok none := by cases r.read <;> simp [Except.map]
      refine iff_of_false ?_ fun h => h.2 r (List.mem_of_find?_eq_some hrow) hid
      simpa using hread

lemma create_eq_ok {c : Conversation} : (s.create c).1 = .ok () ↔ s.find c.id = .ok none := by
  cases s with
  | memory m =>
    rw [find_memory_eq_none, create]
    cases hc : m.find? c.id with
    | none => simp [Memory.create_absent hc]
    | some d => simp [Memory.create_present hc]
  | relational t =>
    have hnone : t.insertConversation? (.ofConversation c) = none ↔
        t.closed = true ∨ ∃ r ∈ t.conversations, r.id = c.id.text := Relational.insertConversation?_eq_none
    rw [find_relational_eq_none, create, Relational.create]
    cases h : t.insertConversation? (.ofConversation c) with
    | none =>
      rcases hnone.mp h with hclosed | ⟨r, hr, hid⟩
      · simp [hclosed]
      · simpa using fun _ => ⟨r, hr, hid⟩
    | some t' =>
      obtain ⟨hopen, hnew⟩ := not_or.mp (mt hnone.mpr (by simp [h]))
      simpa [hopen] using fun r hr hid => hnew ⟨r, hr, hid⟩

lemma append_eq_ok {m : Message} : (s.append m).1 = .ok () ↔ ¬ s.Refuses (.append m) := by
  cases s with
  | memory held =>
    rw [Refuses, find_memory_eq_none, append]
    cases hc : held.find? m.conversation with
    | none => simp [Memory.append_absent hc]
    | some d => simp [Memory.append_present hc, Rejects]
  | relational t =>
    have hnone : t.insertMessage? (.ofMessage m) = none ↔ t.closed = true ∨
        (∃ r ∈ t.messages, r.id = m.id.text) ∨ ∀ r ∈ t.conversations, r.id ≠ m.conversation.text :=
      Relational.insertMessage?_eq_none
    rw [Refuses, find_relational_eq_none, Rejects, append, Relational.append]
    cases hclosed : t.closed with
    | true => simp
    | false =>
      rw [hclosed, or_iff_right Bool.false_ne_true, or_comm] at hnone
      cases h : t.insertMessage? (.ofMessage m) with
      | none => simpa [or_iff_not_imp_left] using hnone.mp h
      | some t' => simpa using mt hnone.mpr (by simp [h])

lemma serve_eq_ok {o : Operation} (hwrite : o.IsWrite) : (∃ r, (s.serve o).1 = .ok r) ↔ ¬ s.Refuses o := by
  cases o with
  | create c => exact Unique.exists_iff.trans (create_eq_ok.trans not_not.symm)
  | append m => exact Unique.exists_iff.trans append_eq_ok
  | _ => exact hwrite.elim

lemma not_isDisturbed {t : Relational} :
    ¬ IsDisturbed (.relational t) x ↔ ∀ c ∈ x.operation.statements, x.disturbed c = false := by
  simp [IsDisturbed]

lemma serveAmid_calm (s : Conversations) (o : Operation) : s.serveAmid Session.calm o = s.serve o := by
  cases s with
  | memory m => cases o <;> rfl
  | relational t =>
    cases o with
    | create c => simp only [serveAmid, Relational.perform_create, serve, create]
    | append m => simp only [serveAmid, Relational.perform_append, serve, append]
    | _ => rfl

lemma serveAmid_eq_ok (hwrite : x.operation.IsWrite) : (∃ r, (s.serveAmid x.disturbed x.operation).1 = .ok r) ↔
    (∃ r, (s.serve x.operation).1 = .ok r) ∧ ¬ s.IsDisturbed x := by
  obtain ⟨o, disturbed⟩ := x
  cases s with
  | memory m => cases o <;> exact (and_iff_left not_false).symm
  | relational t =>
    have hunit : ∀ {a : Except StoreError Unit}, (∃ r, a = .ok r) ↔ a = .ok () := Unique.exists_iff
    rw [← serveAmid_calm, not_isDisturbed]
    cases o with
    | create c => exact hunit.trans (Session.perform_eq_ok.trans (and_congr_left' hunit.symm))
    | append m => exact hunit.trans (Session.perform_eq_ok.trans (and_congr_left' hunit.symm))
    | _ => exact hwrite.elim

/-- A write succeeds unless the store refuses it or the database is disturbed at it. -/
lemma fails_iff (hwrite : x.operation.IsWrite) : s.Fails x ↔ s.Refuses x.operation ∨ s.IsDisturbed x := by
  have herror : ∀ {α : Type} {a : Except StoreError α}, (∃ e, a = .error e) ↔ ¬ ∃ r, a = .ok r := by
    intro α a
    cases a <;> simp
  rw [Fails, and_iff_right hwrite, herror, serveAmid_eq_ok hwrite, serve_eq_ok hwrite, not_and_or, not_not, not_not]

/-! ### Writes that fail go unnoticed -/

/-- What is not disturbed is served as ever. -/
lemma serveAmid_undisturbed (h : ¬ s.IsDisturbed x) : s.serveAmid x.disturbed x.operation = s.serve x.operation := by
  rw [← serveAmid_calm]
  obtain ⟨o, disturbed⟩ := x
  cases s with
  | memory m => cases o <;> rfl
  | relational t =>
    cases o with
    | create c => simp only [serveAmid, Session.perform_undisturbed (not_isDisturbed.mp h)]
    | append m => simp only [serveAmid, Session.perform_undisturbed (not_isDisturbed.mp h)]
    | _ => rfl

/-- A write that fails leaves the store as it is. -/
lemma Fails.unchanged (h : s.Fails x) : (s.serveAmid x.disturbed x.operation).2 = s := by
  obtain ⟨o, disturbed⟩ := x
  obtain ⟨hwrite, e, he⟩ := h
  cases o with
  | create c =>
    cases s with
    | memory m =>
      cases hc : m.find? c.id with
      | none => simp [serveAmid, serve, create, Memory.create_absent hc] at he
      | some d => simp [serveAmid, serve, create, Memory.create_present hc]
    | relational t => exact congrArg Conversations.relational (Relational.create_failed he)
  | append m =>
    cases s with
    | memory held =>
      cases hc : held.find? m.conversation with
      | none => simp [serveAmid, serve, append, Memory.append_absent hc]
      | some d => simp [serveAmid, serve, append, Memory.append_present hc] at he
    | relational t => exact congrArg Conversations.relational (Relational.append_failed he)
  | _ => exact hwrite.elim

lemma afterAll_append (s : Conversations) (xs ys : List Attempt) :
    s.afterAll (xs ++ ys) = (s.afterAll xs).afterAll ys := by
  induction xs generalizing s with
  | nil => rfl
  | cons x xs ih => exact ih _

lemma answers_append (s : Conversations) (xs ys : List Attempt) :
    s.answers (xs ++ ys) = s.answers xs ++ (s.afterAll xs).answers ys := by
  induction xs generalizing s with
  | nil => rfl
  | cons x xs ih => exact congrArg _ (ih _)

lemma length_answers (s : Conversations) (xs : List Attempt) : (s.answers xs).length = xs.length := by
  induction xs generalizing s with
  | nil => rfl
  | cons x xs ih => exact congrArg _ (ih _)

/-- Without a write that fails, all other attempts are answered the same, and the store ends the same. -/
lemma Fails.unnoticed (h : (s.afterAll xs).Fails x) (ys : List Attempt) :
    s.answers (xs ++ ys) = (s.answers (xs ++ x :: ys)).eraseIdx xs.length ∧
      s.afterAll (xs ++ ys) = s.afterAll (xs ++ x :: ys) := by
  have hanswers : (s.afterAll xs).answers (x :: ys) =
      ⟨x.operation, ((s.afterAll xs).serveAmid x.disturbed x.operation).1⟩ :: (s.afterAll xs).answers ys := by
    rw [answers, h.unchanged]
  constructor
  · rw [answers_append, answers_append, hanswers,
      List.eraseIdx_append_of_length_le (length_answers s xs).le, length_answers, Nat.sub_self,
      List.eraseIdx_cons_zero]
  · rw [afterAll_append, afterAll_append, afterAll, h.unchanged]

/-! ### All or nothing -/

/-- A write between earlier and later attempts on a store. -/
structure AllOrNothing (s : Conversations) (earlier : List Attempt) (x : Attempt) (later : List Attempt) : Prop where
  /-- Nothing makes it fail but the store's refusing it and disturbances. -/
  causes : (s.afterAll earlier).Fails x ↔ (s.afterAll earlier).Refuses x.operation ∨ (s.afterAll earlier).IsDisturbed x
  /-- Undisturbed, it is served as ever. -/
  served : ¬ (s.afterAll earlier).IsDisturbed x →
    (s.afterAll earlier).serveAmid x.disturbed x.operation = (s.afterAll earlier).serve x.operation
  /-- If it fails, all other attempts are answered as without it, and the store ends as without it. -/
  unnoticed : (s.afterAll earlier).Fails x →
    s.answers (earlier ++ later) = (s.answers (earlier ++ x :: later)).eraseIdx earlier.length ∧
      s.afterAll (earlier ++ later) = s.afterAll (earlier ++ x :: later)
  /-- A message enters the tables together with the touch of its conversation, or neither does. -/
  whole : ∀ {m disturbed t}, x = ⟨.append m, disturbed⟩ → s.afterAll earlier = .relational t →
    (∃ e, serveAmid disturbed (.relational t) (.append m) = (.error e, .relational t)) ∨
      ∃ t', t.Enters m t' ∧ serveAmid disturbed (.relational t) (.append m) = (.ok (), .relational t')
  /-- As long as statements are outstanding, there is nothing of it in the tables. -/
  hidden : ∀ {m disturbed t made}, x = ⟨.append m, disturbed⟩ → s.afterAll earlier = .relational t →
    made <+: (Operation.append m).statements → made ≠ (Operation.append m).statements →
    (Session.perform disturbed made ⟨t, none⟩).2 = t

theorem writes_all_or_nothing (s : Conversations) (earlier : List Attempt) {x : Attempt} (hwrite : x.operation.IsWrite)
    (later : List Attempt) : s.AllOrNothing earlier x later where
  causes := fails_iff hwrite
  served h := serveAmid_undisturbed h
  unnoticed h := h.unnoticed later
  whole {m disturbed t} _ _ := by
    cases hmade : (Session.perform disturbed (Operation.append m).statements ⟨t, none⟩).1 with
    | error e =>
      exact .inl ⟨e, Prod.ext hmade (congrArg Conversations.relational (Relational.append_failed hmade))⟩
    | ok _ => exact .inr ⟨_, Relational.append_made hmade, Prod.ext hmade rfl⟩
  hidden _ _ hmade hshort := Relational.append_cut_short hmade hshort

/-- Alice begins a conversation twice and says something in it and in another that nobody began. Her second message
gets in at the third attempt, after one that was disturbed at the touch and one that was at the commit. Her third bears
the identifier of the first. -/
def mishaps : List Attempt :=
  let conversation : Conversation := .start ⟨⟨1⟩⟩ ⟨60, 0⟩ ⟨"alice"⟩
  let second : Operation := .append (.ofUser ⟨8⟩ ⟨63, 0⟩ ⟨⟨1⟩⟩ "second")
  [⟨.create conversation, Session.calm⟩, ⟨.create conversation, Session.calm⟩,
    ⟨.append (.ofUser ⟨7⟩ ⟨61, 0⟩ ⟨⟨1⟩⟩ "first"), Session.calm⟩,
    ⟨.append (.ofUser ⟨9⟩ ⟨62, 0⟩ ⟨⟨2⟩⟩ "lost"), Session.calm⟩,
    ⟨second, fun | .touch _ _ => true | _ => false⟩, ⟨second, fun | .commit => true | _ => false⟩, ⟨second, Session.calm⟩,
    ⟨.append (.ofUser ⟨7⟩ ⟨64, 0⟩ ⟨⟨1⟩⟩ "third"), Session.calm⟩]

/-- The attempts that succeed. -/
def successes (s : Conversations) (xs : List Attempt) : List Bool := (s.answers xs).map fun a => a.2.toOption.isSome

theorem writes_all_or_nothing_mishaps :
    (∃ x, mishaps[4]? = some x ∧ x.operation.IsWrite ∧
      AllOrNothing (.relational .empty) (mishaps.take 4) x (mishaps.drop 5)) ∧
    (∃ x, mishaps[3]? = some x ∧ x.operation.IsWrite ∧
      AllOrNothing (.memory .empty) (mishaps.take 3) x (mishaps.drop 4)) ∧
    successes (.relational .empty) mishaps = [true, false, true, false, false, false, true, false] ∧
    successes (.memory .empty) mishaps = [true, false, true, false, true, true, true, true] := by
  refine ⟨⟨_, rfl, trivial, ?_⟩, ⟨_, rfl, trivial, ?_⟩, by decide +kernel, by decide +kernel⟩
  · exact writes_all_or_nothing _ _ (by trivial) _
  · exact writes_all_or_nothing _ _ (by trivial) _

end Conversations
end CompletionGateway.Store
