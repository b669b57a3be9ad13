import CompletionGateway.Proofs.Store.Agreement

/-! Writes to the tables, statement by statement. Between its beginning and its commit a transaction works on tables of its
own, so that whatever statement fails, the tables are as before; and if none fails, all its changes are there at once. -/
namespace CompletionGateway.Store

/-- What a connection has the database do. -/
inductive Statement where
  | begin
  | insertConversation (row : ConversationRow)
  | insertMessage (row : MessageRow)
  | touch (id time : String)
  | commit

/-- What is told of a statement that fails. -/
def Statement.failure : Statement → StoreError
  | .begin => .storage "begin transaction"
  | .insertConversation _ => .queryFailed "INSERT conversation failed"
  | .insertMessage _ => .queryFailed "INSERT message failed"
  | .touch _ _ => .queryFailed "UPDATE conversation failed"
  | .commit => .storage "commit"

/-- The tables as all connections find them, and as the transaction of this one has left them, if it is in one. -/
structure Session where
  tables : Relational
  transaction : Option Relational

namespace Session

/-- The tables as this connection finds them. -/
def view (s : Session) : Relational := s.transaction.getD s.tables

/-- A change within a transaction is its own. Any other change is there for all at once. -/
def change (s : Session) (t : Relational) : Session :=
  match s.transaction with
  | some _ => ⟨s.tables, some t⟩
  | none => ⟨t, none⟩

/-- The session after a statement, unless a constraint refuses it or the database cannot be used. -/
def execute? (s : Session) (c : Statement) : Option Session :=
  if s.tables.closed then none
  else
    match c with
    | .begin => some ⟨s.tables, some s.tables⟩
    | .insertConversation r => (s.view.insertConversation? r).map s.change
    | .insertMessage r => (s.view.insertMessage? r).map s.change
    | .touch id time => some (s.change (s.view.touch id time))
    | .commit => some ⟨s.view, none⟩

/-- The same, when the database may be disturbed at the statement. -/
def step? (disturbed : Statement → Bool) (s : Session) (c : Statement) : Option Session :=
  if disturbed c then none else s.execute? c

/-- Statements in order, up to the first that fails. A transaction that is open then is rolled back. -/
def perform (disturbed : Statement → Bool) : List Statement → Session → Except StoreError Unit × Relational
  | [], s => (.ok (), s.tables)
  | c :: cs, s =>
    match s.step? disturbed c with
    | some s' => perform disturbed cs s'
    | none => (.error c.failure, s.tables)

/-- Nothing disturbs the database. -/
def calm : Statement → Bool := fun _ => false

variable {disturbed : Statement → Bool} {s s' : Session} {c : Statement} {cs : List Statement} {e : StoreError}

@[simp] lemma step?_calm (s : Session) (c : Statement) : s.step? calm c = s.execute? c := rfl

lemma step?_undisturbed (h : disturbed c = false) : s.step? disturbed c = s.execute? c := by
  rw [step?, h, if_neg Bool.false_ne_true]

lemma step?_eq_some : s.step? disturbed c = some s' ↔ disturbed c = false ∧ s.execute? c = some s' := by
  unfold step?
  split
  · simp_all
  · simp_all

lemma perform_stops (h : s.step? disturbed c = none) (cs : List Statement) :
    perform disturbed (c :: cs) s = (.error c.failure, s.tables) := by rw [perform, h]

lemma perform_goes_on (h : s.step? disturbed c = some s') (cs : List Statement) :
    perform disturbed (c :: cs) s = perform disturbed cs s' := by rw [perform, h]

/-! ### Disturbances -/

lemma perform_undisturbed (h : ∀ c ∈ cs, disturbed c = false) (s : Session) :
    perform disturbed cs s = perform calm cs s := by
  induction cs generalizing s with
  | nil => rfl
  | cons c cs ih =>
    have ih := ih fun d hd => h d (List.mem_cons_of_mem _ hd)
    simp only [perform, step?_undisturbed (h c List.mem_cons_self), step?_calm, ih]

/-- All goes well just if it does when nothing disturbs the database, and nothing does. -/
lemma perform_eq_ok : (perform disturbed cs s).1 = .ok () ↔
    (perform calm cs s).1 = .ok () ∧ ∀ c ∈ cs, disturbed c = false := by
  constructor
  · intro h
    suffices hall : ∀ c ∈ cs, disturbed c = false from ⟨perform_undisturbed hall s ▸ h, hall⟩
    induction cs generalizing s with
    | nil => exact List.forall_mem_nil _
    | cons c cs ih =>
      cases hstep : s.step? disturbed c with
      | none => rw [perform_stops hstep] at h; cases h
      | some s' =>
        rw [perform_goes_on hstep] at h
        exact List.forall_mem_cons.mpr ⟨(step?_eq_some.mp hstep).1, ih h⟩
  · rintro ⟨h, hall⟩
    rwa [perform_undisturbed hall s]

/-! ### Transactions -/

/-- When statements fail, the last has changed nothing: it is the one that failed, or it was not reached. -/
lemma perform_last_failed (cs : List Statement) (h : (perform disturbed (cs ++ [c]) s).1 = .error e) :
    (perform disturbed (cs ++ [c]) s).2 = (perform disturbed cs s).2 := by
  induction cs generalizing s with
  | nil =>
    rw [List.nil_append] at h ⊢
    cases hstep : s.step? disturbed c with
    | none => rw [perform_stops hstep]; rfl
    | some s' => rw [perform_goes_on hstep] at h; cases h
  | cons d cs ih =>
    rw [List.cons_append] at h ⊢
    cases hstep : s.step? disturbed d with
    | none => rw [perform_stops hstep, perform_stops hstep]
    | some s' =>
      rw [perform_goes_on hstep] at h
      rw [perform_goes_on hstep, perform_goes_on hstep, ih h]

/-- Within a transaction nothing happens to the tables before the commit. -/
lemma execute?_within (hs : s.transaction.isSome) (hc : c ≠ .commit) (h : s.execute? c = some s') :
    s'.tables = s.tables ∧ s'.transaction.isSome := by
  obtain ⟨t, ht⟩ := Option.isSome_iff_exists.mp hs
  have hchange : ∀ t', s.change t' = ⟨s.tables, some t'⟩ := by
    intro t'
    rw [change, ht]
  unfold execute? at h
  split at h
  · cases h
  · cases c with
    | begin =>
      obtain rfl := Option.some.inj h
      exact ⟨rfl, rfl⟩
    | insertConversation r =>
      obtain ⟨t', -, rfl⟩ := Option.map_eq_some_iff.mp h
      rw [hchange]
      exact ⟨rfl, rfl⟩
    | insertMessage r =>
      obtain ⟨t', -, rfl⟩ := Option.map_eq_some_iff.mp h
      rw [hchange]
      exact ⟨rfl, rfl⟩
    | touch id time =>
      obtain rfl := Option.some.inj h
      rw [hchange]
      exact ⟨rfl, rfl⟩
    | commit => exact absurd rfl hc

/-- A transaction that has begun and is not committed leaves the tables as they are. -/
lemma perform_open (hs : s.transaction.isSome) (hcs : .commit ∉ cs) : (perform disturbed cs s).2 = s.tables := by
  induction cs generalizing s with
  | nil => rfl
  | cons c cs ih =>
    rw [List.mem_cons, not_or] at hcs
    cases hstep : s.step? disturbed c with
    | none => rw [perform_stops hstep]
    | some s' =>
      obtain ⟨htables, hopen⟩ := execute?_within hs (Ne.symm hcs.1) (step?_eq_some.mp hstep).2
      rw [perform_goes_on hstep, ih hopen hcs.2, htables]

variable {t : Relational}

lemma perform_begun (hcs : .commit ∉ cs) : (perform disturbed (.begin :: cs) ⟨t, none⟩).2 = t := by
  cases hstep : step? disturbed ⟨t, none⟩ .begin with
  | none => rw [perform_stops hstep]
  | some s' =>
    have hbegun : s' = ⟨t, some t⟩ := by
      have hexecute := (step?_eq_some.mp hstep).2
      unfold execute? at hexecute
      split at hexecute
      · cases hexecute
      · exact (Option.some.inj hexecute).symm
    rw [perform_goes_on hstep, hbegun]
    exact perform_open rfl hcs

/-- A transaction that fails leaves the tables as they are, were it at the commit. -/
theorem perform_transaction (hcs : .commit ∉ cs)
    (h : (perform disturbed (.begin :: cs ++ [.commit]) ⟨t, none⟩).1 = .error e) :
    (perform disturbed (.begin :: cs ++ [.commit]) ⟨t, none⟩).2 = t := by
  rw [perform_last_failed _ h, perform_begun hcs]

/-- A transaction that is cut short before its end leaves the tables as they are. -/
theorem perform_cut {made : List Statement} (hcs : .commit ∉ cs) (hmade : made <+: .begin :: cs ++ [.commit])
    (hshort : made ≠ .begin :: cs ++ [.commit]) : (perform disturbed made ⟨t, none⟩).2 = t := by
  have hmade : made <+: .begin :: cs := (List.prefix_concat_iff.mp hmade).resolve_left hshort
  cases made with
  | nil => rfl
  | cons c made =>
    obtain ⟨rfl, hopen⟩ := List.cons_prefix_cons.mp hmade
    exact perform_begun fun h => hcs (hopen.subset h)

end Session

/-! ### The writes of the store -/

/-- The statements of a write. -/
def Operation.statements : Operation → List Statement
  | .create c => [.insertConversation (.ofConversation c)]
  | .append m =>
    [.begin, .insertMessage (.ofMessage m), .touch m.conversation.text m.createdAt.microText, .commit]
  | _ => []

namespace Relational
open Session

variable {t : Relational} {disturbed : Statement → Bool} {e : StoreError}

lemma insertConversation?_eq_none {r : ConversationRow} :
    t.insertConversation? r = none ↔ t.closed = true ∨ ∃ r' ∈ t.conversations, r'.id = r.id := by
  simp only [insertConversation?, ite_eq_left_iff, reduceCtorEq, imp_false, not_not]
  simp

lemma insertMessage?_eq_none {r : MessageRow} :
    t.insertMessage? r = none ↔
      t.closed = true ∨ (∃ r' ∈ t.messages, r'.id = r.id) ∨ ∀ r' ∈ t.conversations, r'.id ≠ r.conversationId := by
  simp only [insertMessage?, ite_eq_left_iff, reduceCtorEq, imp_false, not_not]
  simp [or_assoc]

/-- Without disturbances the statements of a write are the write. -/
lemma perform_create (t : Relational) (c : Conversation) :
    perform calm (Operation.create c).statements ⟨t, none⟩ = t.create c := by
  unfold Operation.statements Relational.create
  cases hclosed : t.closed with
  | true => simp [perform, execute?, hclosed, insertConversation?, Statement.failure]
  | false =>
    cases hinsert : t.insertConversation? (.ofConversation c) with
    | none => simp [perform, execute?, hclosed, view, hinsert, Statement.failure]
    | some t' => simp [perform, execute?, hclosed, view, hinsert, change]

lemma perform_append (t : Relational) (m : Message) :
    perform calm (Operation.append m).statements ⟨t, none⟩ = t.append m := by
  unfold Operation.statements Relational.append
  cases hclosed : t.closed with
  | true => simp [perform, execute?, hclosed, Statement.failure]
  | false =>
    cases hinsert : t.insertMessage? (.ofMessage m) with
    | none => simp [perform, execute?, hclosed, view, hinsert, Statement.failure]
    | some t' => simp [perform, execute?, hclosed, view, hinsert, change]

lemma create_failed {c : Conversation}
    (h : (perform disturbed (Operation.create c).statements ⟨t, none⟩).1 = .error e) :
    (perform disturbed (Operation.create c).statements ⟨t, none⟩).2 = t :=
  perform_last_failed [] h

variable {m : Message}

/-- The statements of a transaction that appends a message, between its beginning and its commit. -/
lemma append_changes (m : Message) :
    Statement.commit ∉ [.insertMessage (.ofMessage m), .touch m.conversation.text m.createdAt.microText] := by
  simp

lemma append_failed (h : (perform disturbed (Operation.append m).statements ⟨t, none⟩).1 = .error e) :
    (perform disturbed (Operation.append m).statements ⟨t, none⟩).2 = t :=
  perform_transaction (append_changes m) h

lemma append_cut_short {made : List Statement} (hmade : made <+: (Operation.append m).statements)
    (hshort : made ≠ (Operation.append m).statements) : (perform disturbed made ⟨t, none⟩).2 = t :=
  perform_cut (append_changes m) hmade hshort

/-- A message is in with its conversation touched. -/
structure Enters (t : Relational) (m : Message) (t' : Relational) : Prop where
  message : t'.messages = t.messages ++ [(MessageRow.ofMessage m).held]
  touched : t'.conversations = t.conversations.map fun r =>
    if r.id = m.conversation.text then { r with updatedAt := maxText r.updatedAt m.createdAt.microText } else r
  found : ∃ r ∈ t.conversations, r.id = m.conversation.text

lemma append_made (h : (perform disturbed (Operation.append m).statements ⟨t, none⟩).1 = .ok ()) :
    t.Enters m (perform disturbed (Operation.append m).statements ⟨t, none⟩).2 := by
  obtain ⟨h, hcalm⟩ := perform_eq_ok.mp h
  rw [perform_append, Relational.append] at h
  rw [perform_undisturbed hcalm, perform_append, Relational.append]
  cases hclosed : t.closed with
  | true => simp [hclosed] at h
  | false =>
    cases hinsert : t.insertMessage? (.ofMessage m) with
    | none => simp [hclosed, hinsert] at h
    | some t' =>
      have hfits := mt insertMessage?_eq_none.mpr (hinsert.trans_ne (Option.some_ne_none t'))
      have hheld : t' = ⟨t.conversations, t.messages ++ [(MessageRow.ofMessage m).held], t.closed⟩ := by
        unfold insertMessage? at hinsert
        split at hinsert
        · cases hinsert
        · exact (Option.some.inj hinsert).symm
      simp only [not_or, not_forall, not_not] at hfits
      obtain ⟨-, -, r, hr, hid⟩ := hfits
      exact hheld ▸ ⟨rfl, rfl, r, hr, hid⟩

end Relational
end CompletionGateway.Store
