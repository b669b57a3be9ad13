import CompletionGateway.Proofs.Program.Likeness

/-! Two programs in lockstep. Among collaborators that answer alike they make the same calls, and come to values that are
related; what they write to their clients may differ in places. -/
namespace CompletionGateway.Program
variable {α α' β β' σ τ : Type}

/-- Two programs make the same calls as long as these are answered alike, and then return related values. Events that they
write may differ as long as they are related. -/
inductive Lockstep (A : Likeness) (T : EventStream.Event → EventStream.Event → Prop) (Q : α → α' → Prop) :
    Program α → Program α' → Prop
  | done {a a'} (values : Q a a') : Lockstep A T Q (.done a) (.done a')
  | stuck : Lockstep A T Q .stuck .stuck
  | call {c} {next : c.Answer → Program α} {next' : c.Answer → Program α'}
      (rest : ∀ a a', A c a a' → Lockstep A T Q (next a) (next' a')) : Lockstep A T Q (.call c next) (.call c next')
  | emit {e e'} {next : (Call.emit e).Answer → Program α} {next' : (Call.emit e').Answer → Program α'} (told : T e e')
      (rest : ∀ a, Lockstep A T Q (next a) (next' a)) : Lockstep A T Q (.call (.emit e) next) (.call (.emit e') next')

/-- Calls of two runs are answered alike, if they are the same call or both write to the client. -/
structure Event.Agree (A : Likeness) (e : Event σ) (e' : Event τ) : Prop where
  same : ∀ {c a a' m m'}, e = ⟨c, a, m⟩ → e' = ⟨c, a', m'⟩ → A c a a'
  written : ∀ {x x' a a' m m'}, e = ⟨.emit x, a, m⟩ → e' = ⟨.emit x', a', m'⟩ → a = a'

/-- Wherever two runs come at the same time, they are answered alike. -/
def Concur (A : Likeness) (t : List (Event σ)) (t' : List (Event τ)) : Prop := ∀ x ∈ t.zip t', Event.Agree A x.1 x.2

/-- The same call in two runs, or the writing of related events. -/
inductive Event.Paired (A : Likeness) (T : EventStream.Event → EventStream.Event → Prop) : Event σ → Event τ → Prop
  | call {c a a' m m'} (answers : A c a a') : Paired A T ⟨c, a, m⟩ ⟨c, a', m'⟩
  | emit {e e' a m m'} (told : T e e') : Paired A T ⟨.emit e, a, m⟩ ⟨.emit e', a, m'⟩

namespace Lockstep
variable {A : Likeness} {T : EventStream.Event → EventStream.Event → Prop} {Q : α → α' → Prop} {p : Program α}
  {p' : Program α'}

lemma bind {R : β → β' → Prop} {f : α → Program β} {f' : α' → Program β'} (hp : Lockstep A T Q p p')
    (hf : ∀ a a', Q a a' → Lockstep A T R (f a) (f' a')) : Lockstep A T R (p.bind f) (p'.bind f') := by
  induction hp with
  | done values => exact hf _ _ values
  | stuck => exact .stuck
  | call _ ih => exact .call ih
  | emit told _ ih => exact .emit told ih

lemma perform_bind {c : Call} {f : c.Answer → Program β} {f' : c.Answer → Program β'} {R : β → β' → Prop}
    (hf : ∀ a a', A c a a' → Lockstep A T R (f a) (f' a')) :
    Lockstep A T R ((Program.perform c).bind f) ((Program.perform c).bind f') := .call hf

lemma perform_heeded {c : Call} {f : c.Answer → Program β} {f' : c.Answer → Program β'} {R : β → β' → Prop}
    (hc : ∀ {a a'}, A c a a' → a = a') (hf : ∀ a, Lockstep A T R (f a) (f' a)) :
    Lockstep A T R ((Program.perform c).bind f) ((Program.perform c).bind f') :=
  .call fun a a' ha => by
    obtain rfl := hc ha
    exact hf a

/-- A program that does not heed what makes no difference is in step with itself. -/
lemma of_heedless {p : Program α} (hp : p.Heedless A) : Lockstep A T Eq p p := by
  induction p with
  | done a => exact .done rfl
  | stuck => exact .stuck
  | call c next ih =>
    obtain ⟨hnext, hrest⟩ := hp
    refine .call fun a a' ha => ?_
    rw [← hnext a a' ha]
    exact ih a (hrest a)

/-- Runs among collaborators that answer alike. -/
theorem runs (h : Lockstep A T Q p p') {κ : Conduct σ} {κ' : Conduct τ} {s t x m s' t' x' m'}
    (hrun : Runs κ p s t x m) (hrun' : Runs κ' p' s' t' x' m') (hconcur : Concur A t t') :
    List.Forall₂ (Event.Paired A T) t t' ∧ Option.Rel Q x x' := by
  induction h generalizing s t s' t' with
  | done values =>
    obtain ⟨rfl, rfl, -⟩ := runs_done.mp hrun
    obtain ⟨rfl, rfl, -⟩ := runs_done.mp hrun'
    exact ⟨.nil, .some values⟩
  | stuck =>
    obtain ⟨rfl, rfl, -⟩ := runs_stuck.mp hrun
    obtain ⟨rfl, rfl, -⟩ := runs_stuck.mp hrun'
    exact ⟨.nil, .none⟩
  | call _ ih =>
    obtain ⟨a, k, u, -, tail, rfl⟩ := runs_call.mp hrun
    obtain ⟨a', k', u', -, tail', rfl⟩ := runs_call.mp hrun'
    obtain ⟨hhead, hrest⟩ := List.forall_mem_cons.mp hconcur
    have hanswers := hhead.same rfl rfl
    obtain ⟨hpaired, hvalues⟩ := ih a a' hanswers tail tail' hrest
    exact ⟨.cons (.call hanswers) hpaired, hvalues⟩
  | emit told _ ih =>
    obtain ⟨a, k, u, -, tail, rfl⟩ := runs_call.mp hrun
    obtain ⟨a', k', u', -, tail', rfl⟩ := runs_call.mp hrun'
    obtain ⟨hhead, hrest⟩ := List.forall_mem_cons.mp hconcur
    obtain rfl := hhead.written rfl rfl
    obtain ⟨hpaired, hvalues⟩ := ih a tail tail' hrest
    exact ⟨.cons (.emit told) hpaired, hvalues⟩

/-- Handlers that answer alike, and keep to states that correspond, make runs that concur. -/
theorem record (h : Lockstep A T Q p p') (hA : ∀ {e a a'}, A (.emit e) a a' ↔ a = a') {k : Handler σ} {k' : Handler τ}
    {R : σ → τ → Prop} (step : ∀ c m m', R m m' → A c (k c m).1 (k' c m').1 ∧ R (k c m).2 (k' c m').2)
    (tell : ∀ e e' m m', R m m' → (k (.emit e) m).1 = (k' (.emit e') m').1 ∧ R (k (.emit e) m).2 (k' (.emit e') m').2)
    {s : σ} {s' : τ} (hs : R s s') : Concur A (p.record k s).1 (p'.record k' s').1 := by
  induction h generalizing s s' with
  | done values => simp [Concur, Program.record]
  | stuck => simp [Concur, Program.record]
  | @call c next next' _ ih =>
    obtain ⟨hanswers, hstates⟩ := step c s s' hs
    refine List.forall_mem_cons.mpr ⟨⟨?_, ?_⟩, ih _ _ hanswers hstates⟩
    · rintro _ _ _ _ _ ⟨⟩ ⟨⟩
      exact hanswers
    · rintro _ _ _ _ _ _ ⟨⟩ ⟨⟩
      exact hA.mp hanswers
  | @emit e e' next next' told _ ih =>
    obtain ⟨hanswers, hstates⟩ := tell e e' s s' hs
    have hrest := ih (k (.emit e) s).1 hstates
    nth_rewrite 2 [hanswers] at hrest
    refine List.forall_mem_cons.mpr ⟨⟨?_, ?_⟩, hrest⟩
    · rintro _ _ _ _ _ ⟨⟩ ⟨⟩
      exact hA.mpr hanswers
    · rintro _ _ _ _ _ _ ⟨⟩ ⟨⟩
      exact hanswers

end Lockstep

end CompletionGateway.Program
