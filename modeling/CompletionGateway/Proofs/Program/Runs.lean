import Mathlib
import CompletionGateway.Pipeline.Program

/-! Runs of programs among collaborators that may behave in more than one way. A conduct tells which answers a
call may get. A run lists every call with the answer it got, so that what a program did is read off the list. -/
namespace CompletionGateway.Program
variable {α β σ : Type}

/-- The answers that a call may get in a state, each with a state that it may leave. -/
abbrev Conduct (σ : Type) := (c : Call) → σ → c.Answer → σ → Prop

/-- A call that was made. -/
structure Event (σ : Type) where
  call : Call
  answer : call.Answer
  /-- The state that the call left. -/
  after : σ

/-- A run from one state to another: its calls in order, and its result unless it got stuck. -/
inductive Runs (κ : Conduct σ) : Program α → σ → List (Event σ) → Option α → σ → Prop
  | done (a s) : Runs κ (.done a) s [] (some a) s
  | stuck (s) : Runs κ .stuck s [] none s
  | call {c next s a m t r s'} (answer : κ c s a m) (tail : Runs κ (next a) m t r s') :
      Runs κ (.call c next) s (⟨c, a, m⟩ :: t) r s'

/-- A program may return a value. -/
def Returns (κ : Conduct σ) (p : Program α) (s : σ) (a : α) : Prop := ∃ t s', Runs κ p s t (some a) s'

variable {κ : Conduct σ}

lemma bind_assoc {γ : Type} (p : Program α) (f : α → Program β) (h : β → Program γ) :
    (p.bind f).bind h = p.bind fun a => (f a).bind h := by
  induction p with
  | done a => rfl
  | stuck => rfl
  | call c next ih => exact congrArg (Program.call c) (funext ih)

/-! ### Runs by the form of the program -/

@[simp] lemma runs_done {a : α} {s t r s'} :
    Runs κ (.done a) s t r s' ↔ t = [] ∧ r = some a ∧ s' = s := by
  constructor
  · intro h
    cases h
    exact ⟨rfl, rfl, rfl⟩
  · rintro ⟨rfl, rfl, rfl⟩
    exact .done a s'

@[simp] lemma runs_stuck {s t s'} {r : Option α} :
    Runs κ .stuck s t r s' ↔ t = [] ∧ r = none ∧ s' = s := by
  constructor
  · intro h
    cases h
    exact ⟨rfl, rfl, rfl⟩
  · rintro ⟨rfl, rfl, rfl⟩
    exact .stuck s'

lemma runs_call {c : Call} {next : c.Answer → Program α} {s t r s'} :
    Runs κ (.call c next) s t r s' ↔
      ∃ a m t', κ c s a m ∧ Runs κ (next a) m t' r s' ∧ t = ⟨c, a, m⟩ :: t' := by
  constructor
  · intro h
    cases h with
    | call answer tail => exact ⟨_, _, _, answer, tail, rfl⟩
  · rintro ⟨a, m, t', answer, tail, rfl⟩
    exact .call answer tail

lemma runs_perform {c : Call} {s t r s'} :
    Runs κ (perform c) s t r s' ↔ ∃ a, κ c s a s' ∧ r = some a ∧ t = [⟨c, a, s'⟩] := by
  simp only [perform, runs_call, runs_done]
  constructor
  · rintro ⟨a, m, _, answer, ⟨rfl, rfl, rfl⟩, rfl⟩
    exact ⟨a, answer, rfl, rfl⟩
  · rintro ⟨a, answer, rfl, rfl⟩
    exact ⟨a, s', [], answer, ⟨rfl, rfl, rfl⟩, rfl⟩

lemma runs_perform_bind {c : Call} {f : c.Answer → Program α} {s t r s'} :
    Runs κ ((perform c).bind f) s t r s' ↔
      ∃ a m t', κ c s a m ∧ Runs κ (f a) m t' r s' ∧ t = ⟨c, a, m⟩ :: t' := runs_call

/-- A run of two programs in sequence is a run of the first and, unless that gets stuck, one of the second. -/
lemma runs_bind {p : Program α} {f : α → Program β} {s t r s'} :
    Runs κ (p.bind f) s t r s' ↔
      (∃ a m t₁ t₂, Runs κ p s t₁ (some a) m ∧ Runs κ (f a) m t₂ r s' ∧ t = t₁ ++ t₂) ∨
      (Runs κ p s t none s' ∧ r = none) := by
  induction p generalizing s t with
  | done a =>
    constructor
    · intro h
      exact .inl ⟨a, s, [], t, .done a s, h, rfl⟩
    · rintro (⟨a', m, t₁, t₂, h, hf, rfl⟩ | ⟨h, -⟩)
      · obtain ⟨rfl, ha, rfl⟩ := runs_done.mp h
        cases ha
        exact hf
      · exact absurd (runs_done.mp h).2.1 (by simp)
  | stuck =>
    constructor
    · intro h
      obtain ⟨rfl, rfl, rfl⟩ := runs_stuck.mp h
      exact .inr ⟨.stuck s', rfl⟩
    · rintro (⟨a', m, t₁, t₂, h, hf, rfl⟩ | ⟨h, rfl⟩)
      · exact absurd (runs_stuck.mp h).2.1 (by simp)
      · obtain ⟨rfl, -, rfl⟩ := runs_stuck.mp h
        exact .stuck s'
  | call c next ih =>
    constructor
    · intro h
      obtain ⟨a, m, t', answer, tail, rfl⟩ := runs_call.mp h
      rcases ih a |>.mp tail with ⟨b, m', t₁, t₂, hp, hf, rfl⟩ | ⟨hp, rfl⟩
      · exact .inl ⟨b, m', _ :: t₁, t₂, .call answer hp, hf, rfl⟩
      · exact .inr ⟨.call answer hp, rfl⟩
    · rintro (⟨b, m', t₁, t₂, hp, hf, rfl⟩ | ⟨hp, rfl⟩)
      · obtain ⟨a, m, t', answer, tail, rfl⟩ := runs_call.mp hp
        exact .call answer ((ih a).mpr (.inl ⟨b, m', t', t₂, tail, hf, rfl⟩))
      · obtain ⟨a, m, t', answer, tail, rfl⟩ := runs_call.mp hp
        exact .call answer ((ih a).mpr (.inr ⟨tail, rfl⟩))

/-! ### Programs that make calls of one kind only -/

/-- Every call on every path through the program is of a kind. -/
def Only (K : Call → Prop) : Program α → Prop
  | .done _ => True
  | .stuck => True
  | .call c next => K c ∧ ∀ a, (next a).Only K

lemma Only.bind {K : Call → Prop} {p : Program α} {f : α → Program β} (hp : p.Only K) (hf : ∀ a, (f a).Only K) :
    (p.bind f).Only K := by
  induction p with
  | done a => exact hf a
  | stuck => trivial
  | call c next ih => exact ⟨hp.1, fun a => ih a (hp.2 a)⟩

lemma Only.mono {K K' : Call → Prop} (hK : ∀ {c}, K c → K' c) {p : Program α} (hp : p.Only K) : p.Only K' := by
  induction p with
  | done a => trivial
  | stuck => trivial
  | call c next ih => exact ⟨hK hp.1, fun a => ih a (hp.2 a)⟩

lemma Only.perform {K : Call → Prop} {c : Call} (hc : K c) : (Program.perform c).Only K := ⟨hc, fun _ => trivial⟩

lemma Runs.only {K : Call → Prop} {p : Program α} {s t r s'} (h : Runs κ p s t r s') (hp : p.Only K) :
    ∀ e ∈ t, K e.call := by
  induction h with
  | done a s => simp
  | stuck s => simp
  | call answer tail ih =>
    intro e he
    rcases List.mem_cons.mp he with rfl | he
    · exact hp.1
    · exact ih (hp.2 _) e he

/-- Every call is of a kind, and every value that the program may return has a property. -/
inductive Within (K : Call → Prop) (P : α → Prop) : Program α → Prop
  | done {a} (value : P a) : Within K P (.done a)
  | stuck : Within K P .stuck
  | call {c} {next : c.Answer → Program α} (made : K c) (rest : ∀ a, Within K P (next a)) : Within K P (.call c next)

namespace Within
variable {K : Call → Prop} {P : β → Prop} {Q : α → Prop} {p : Program α} {f : α → Program β}

lemma bind (hp : p.Within K Q) (hf : ∀ a, Q a → (f a).Within K P) : (p.bind f).Within K P := by
  induction hp with
  | done value => exact hf _ value
  | stuck => exact .stuck
  | call made _ ih => exact .call made ih

/-- Whatever a program returns, those behind it may see to the property. -/
lemma after (hp : p.Only K) (hf : ∀ a, (f a).Within K P) : (p.bind f).Within K P := by
  induction p with
  | done a => exact hf a
  | stuck => exact .stuck
  | call c next ih => exact .call hp.1 fun a => ih a (hp.2 a)

lemma only (hp : p.Within K Q) : p.Only K := by
  induction hp with
  | done value => trivial
  | stuck => trivial
  | call made _ ih => exact ⟨made, ih⟩

end Within

/-! ### What a run leaves behind -/

/-- What relates the states around every call of a run relates the states around the run. -/
theorem Runs.related {p : Program α} {s t r s'} (R : σ → σ → Prop) (refl : ∀ s, R s s)
    (trans : ∀ {s m s'}, R s m → R m s' → R s s') (h : Runs κ p s t r s')
    (step : ∀ e ∈ t, ∀ {s}, κ e.call s e.answer e.after → R s e.after) : R s s' := by
  induction h with
  | done a s => exact refl s
  | stuck s => exact refl s
  | call answer tail ih =>
    exact trans (step _ List.mem_cons_self answer) (ih fun e he => step e (List.mem_cons_of_mem _ he))

/-- A part of the state that each call adds to has all that was added to it in the end. -/
theorem Runs.grows {p : Program α} {s t r s'} (part : σ → List β) (added? : Event σ → Option β)
    (step : ∀ {c s a s'}, κ c s a s' → part s' = part s ++ (added? ⟨c, a, s'⟩).toList) (h : Runs κ p s t r s') :
    part s' = part s ++ t.filterMap added? := by
  induction h with
  | done a s => simp
  | stuck s => simp
  | call answer tail ih =>
    rw [ih, step answer, List.append_assoc, List.filterMap_cons]
    split <;> rename_i heq <;> simp [heq]

/-! ### Comparing runs -/

lemma Runs.mono {κ' : Conduct σ} (hκ : ∀ {c s a s'}, κ c s a s' → κ' c s a s') {p : Program α} {s t r s'}
    (h : Runs κ p s t r s') : Runs κ' p s t r s' := by
  induction h with
  | done a s => exact .done a s
  | stuck s => exact .stuck s
  | call answer tail ih => exact .call (hκ answer) ih

/-- Of two runs of a program whose calls agree as far as both go, neither goes further than the other. -/
theorem Runs.prefix_free {p : Program α} {s t t' u u' r r' m m'} (h : Runs κ p s t r m) (h' : Runs κ p s t' r' m')
    (htu : t ++ u = t' ++ u') : t = t' ∧ r = r' ∧ m = m' := by
  induction h generalizing t' with
  | done a s =>
    obtain ⟨rfl, rfl, rfl⟩ := runs_done.mp h'
    exact ⟨rfl, rfl, rfl⟩
  | stuck s =>
    obtain ⟨rfl, rfl, rfl⟩ := runs_stuck.mp h'
    exact ⟨rfl, rfl, rfl⟩
  | call answer tail ih =>
    obtain ⟨a, k, t'', answer', tail', rfl⟩ := runs_call.mp h'
    obtain ⟨hevent, hrest⟩ := List.cons.inj htu
    cases hevent
    obtain ⟨rfl, rfl, rfl⟩ := ih tail' hrest
    exact ⟨rfl, rfl, rfl⟩

/-- Every call has one answer and leaves one state. -/
def Deterministic (κ : Conduct σ) : Prop := ∀ {c s a s' a' s''}, κ c s a s' → κ c s a' s'' → a = a' ∧ s' = s''

/-- Among deterministic collaborators a program has one run from each state. -/
theorem Runs.deterministic (hκ : Deterministic κ) {p : Program α} {s t t' r r' m m'} (h : Runs κ p s t r m)
    (h' : Runs κ p s t' r' m') : t = t' ∧ r = r' ∧ m = m' := by
  induction h generalizing t' with
  | done a s =>
    obtain ⟨rfl, rfl, rfl⟩ := runs_done.mp h'
    exact ⟨rfl, rfl, rfl⟩
  | stuck s =>
    obtain ⟨rfl, rfl, rfl⟩ := runs_stuck.mp h'
    exact ⟨rfl, rfl, rfl⟩
  | call answer tail ih =>
    obtain ⟨a, k, t'', answer', tail', rfl⟩ := runs_call.mp h'
    obtain ⟨rfl, rfl⟩ := hκ answer answer'
    obtain ⟨rfl, rfl, rfl⟩ := ih tail'
    exact ⟨rfl, rfl, rfl⟩

/-! ### Runs under a handler -/

/-- The run under a handler with all its calls. -/
def record (h : Handler σ) : Program α → σ → List (Event σ) × Option α × σ
  | .done a, s => ([], some a, s)
  | .stuck, s => ([], none, s)
  | .call c next, s =>
    let r := h c s
    let rest := (next r.1).record h r.2
    (⟨c, r.1, r.2⟩ :: rest.1, rest.2)

lemma record_result (h : Handler σ) (p : Program α) (s : σ) : (p.record h s).2 = p.run h s := by
  induction p generalizing s with
  | done a => rfl
  | stuck => rfl
  | call c next ih => exact ih _ _

lemma deterministic_handler (h : Handler σ) : Deterministic fun c s a s' => h c s = (a, s') :=
  fun ha ha' => Prod.ext_iff.mp (ha.symm.trans ha')

/-- A handler that keeps to a conduct makes a run among those that the conduct allows. -/
theorem record_runs {h : Handler σ} (hκ : ∀ c s, κ c s (h c s).1 (h c s).2) (p : Program α) (s : σ) :
    Runs κ p s (p.record h s).1 (p.record h s).2.1 (p.record h s).2.2 := by
  induction p generalizing s with
  | done a => exact .done a s
  | stuck => exact .stuck s
  | call c next ih => exact .call (hκ c s) (ih _ _)

end CompletionGateway.Program
