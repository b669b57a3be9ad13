import CompletionGateway.Proofs.Program.Runs

/-! Parts of runs. A program may be dropped between any two of its calls, or others may take their turns there. What it
has done so far is read off the calls up to that point. -/
namespace CompletionGateway.Program
variable {σ : Type}

/-- A program that has come from one state to another by some of its calls, and what is left of it. -/
inductive Reaches {α : Type} (κ : Conduct σ) (p : Program α) (s : σ) : List (Event σ) → Program α → σ → Prop
  | start : Reaches κ p s [] p s
  | call {t c next m a s'} (before : Reaches κ p s t (.call c next) m) (answer : κ c m a s') :
      Reaches κ p s (t ++ [⟨c, a, s'⟩]) (next a) s'

variable {α β : Type} {κ : Conduct σ} {p q : Program α} {s m s' : σ} {t : List (Event σ)}

/-! ### Parts by the form of the program -/

lemma reaches_done {a : α} (h : Reaches κ (.done a) s t q m) : t = [] ∧ q = .done a ∧ m = s := by
  induction h with
  | start => exact ⟨rfl, rfl, rfl⟩
  | call before answer ih => cases ih.2.1

lemma reaches_call {c : Call} {next : c.Answer → Program α} (h : Reaches κ (.call c next) s t q m) :
    (t = [] ∧ q = .call c next ∧ m = s) ∨
    ∃ a k t', κ c s a k ∧ Reaches κ (next a) k t' q m ∧ t = ⟨c, a, k⟩ :: t' := by
  induction h with
  | start => exact .inl ⟨rfl, rfl, rfl⟩
  | call before answer ih =>
    rcases ih with ⟨rfl, heq, rfl⟩ | ⟨a, k, t', first, rest, rfl⟩
    · cases heq
      exact .inr ⟨_, _, [], answer, .start, rfl⟩
    · exact .inr ⟨a, k, _, first, .call rest answer, rfl⟩

/-- Of two programs in sequence, the second is not begun before the first is done. -/
lemma reaches_bind {f : α → Program β} {q : Program β} (h : Reaches κ (p.bind f) s t q m) :
    (∃ q', Reaches κ p s t q' m ∧ q = q'.bind f) ∨
    ∃ a k t₁ t₂, Reaches κ p s t₁ (.done a) k ∧ Reaches κ (f a) k t₂ q m ∧ t = t₁ ++ t₂ := by
  induction h with
  | start => exact .inl ⟨p, .start, rfl⟩
  | @call t c next m a s' before answer ih =>
    rcases ih with ⟨q', hp, heq⟩ | ⟨b, k, t₁, t₂, hp, hf, rfl⟩
    · cases q' with
      | done b =>
        have hf : Reaches κ (f b) m [] (.call c next) m := heq ▸ .start
        exact .inr ⟨b, m, t, _, hp, hf.call answer, rfl⟩
      | stuck => cases heq
      | call c' next' =>
        cases heq
        exact .inl ⟨next' a, hp.call answer, rfl⟩
    · exact .inr ⟨b, k, t₁, _, hp, hf.call answer, List.append_assoc _ _ _⟩

/-- A last step that makes no calls adds nothing to a part of a run. -/
lemma reaches_bind_done {f : α → Program β} (hf : ∀ a, ∃ b, f a = .done b) {q : Program β}
    (h : Reaches κ (p.bind f) s t q m) :
    ∃ q', Reaches κ p s t q' m ∧ ∀ b, q = .done b → ∃ a, q' = .done a ∧ f a = .done b := by
  rcases reaches_bind h with ⟨q', hp, rfl⟩ | ⟨a, k, t₁, t₂, hp, hq, rfl⟩
  · refine ⟨q', hp, fun b hb => ?_⟩
    cases q' with
    | done a => exact ⟨a, rfl, hb⟩
    | stuck => cases hb
    | call c next => cases hb
  · obtain ⟨b, hfa⟩ := hf a
    rw [hfa] at hq
    obtain ⟨rfl, rfl, rfl⟩ := reaches_done hq
    rw [List.append_nil]
    exact ⟨_, hp, fun c hc => ⟨a, rfl, hfa.trans hc⟩⟩

namespace Reaches

lemma only {K : Call → Prop} (h : Reaches κ p s t q m) (hp : p.Only K) : (∀ e ∈ t, K e.call) ∧ q.Only K := by
  induction h with
  | start => exact ⟨by simp, hp⟩
  | call before answer ih =>
    obtain ⟨ht, hc, hnext⟩ := ih
    refine ⟨?_, hnext _⟩
    intro e he
    rcases List.mem_append.mp he with he | he
    · exact ht e he
    · rw [List.mem_singleton.mp he]
      exact hc

lemma within {K : Call → Prop} {P : α → Prop} (h : Reaches κ p s t q m) (hp : p.Within K P) :
    (∀ e ∈ t, K e.call) ∧ q.Within K P := by
  refine ⟨(h.only hp.only).1, ?_⟩
  induction h with
  | start => exact hp
  | call before answer ih =>
    cases ih with
    | call made rest => exact rest _

/-! ### Parts and runs -/

lemma after_call {c : Call} {next : c.Answer → Program α} {a k} (first : κ c s a k) (h : Reaches κ (next a) k t q m) :
    Reaches κ (.call c next) s (⟨c, a, k⟩ :: t) q m := by
  induction h with
  | start => exact Reaches.start.call first
  | call before answer ih => exact ih.call answer

/-- A run goes on from wherever the program has come. -/
lemma runs (h : Reaches κ p s t q m) {t' r} (h' : Runs κ q m t' r s') : Runs κ p s (t ++ t') r s' := by
  induction h generalizing t' with
  | start => exact h'
  | call before answer ih =>
    rw [List.append_assoc]
    exact ih (.call answer h')

/-- Whatever the program has come to, it may go on to an end if every call may get an answer. -/
lemma extend (hκ : ∀ c s, ∃ a s', κ c s a s') (h : Reaches κ p s t q m) :
    ∃ t' r s', Runs κ p s (t ++ t') r s' := by
  have hends : ∀ (q : Program α) (m : σ), ∃ t' r s', Runs κ q m t' r s' := by
    intro q
    induction q with
    | done a => exact fun m => ⟨[], some a, m, .done a m⟩
    | stuck => exact fun m => ⟨[], none, m, .stuck m⟩
    | call c next ih =>
      intro m
      obtain ⟨a, m', answer⟩ := hκ c m
      obtain ⟨t', r, s', tail⟩ := ih a m'
      exact ⟨_, r, s', .call answer tail⟩
  obtain ⟨t', r, s', hrest⟩ := hends q m
  exact ⟨t', r, s', h.runs hrest⟩

/-- What relates the states around every call relates the states on the way. -/
lemma related (R : σ → σ → Prop) (refl : ∀ s, R s s) (trans : ∀ {s m s'}, R s m → R m s' → R s s')
    (h : Reaches κ p s t q m) (step : ∀ e ∈ t, ∀ {s}, κ e.call s e.answer e.after → R s e.after) :
    R s m ∧ ∀ e ∈ t, R s e.after ∧ R e.after m := by
  induction h with
  | start => exact ⟨refl s, by simp⟩
  | call before answer ih =>
    obtain ⟨hm, hevents⟩ := ih fun e he => step e (List.mem_append_left _ he)
    have hlast := step _ (List.mem_append_right _ List.mem_cons_self) answer
    refine ⟨trans hm hlast, ?_⟩
    intro e he
    rcases List.mem_append.mp he with he | he
    · obtain ⟨hbefore, hafter⟩ := hevents e he
      exact ⟨hbefore, trans hafter hlast⟩
    · rw [List.mem_singleton.mp he]
      exact ⟨trans hm hlast, refl _⟩

end Reaches

/-- A program that has ended: with a value, or waiting for something that never comes. -/
def ended? : Program α → Option (Option α)
  | .done a => some (some a)
  | .stuck => some none
  | .call _ _ => none

/-- A run is a part of itself. -/
lemma Reaches.of_runs {r} (h : Runs κ p s t r s') : ∃ q, Reaches κ p s t q s' ∧ q.ended? = some r := by
  induction h with
  | done a s => exact ⟨_, .start, rfl⟩
  | stuck s => exact ⟨_, .start, rfl⟩
  | call answer tail ih =>
    obtain ⟨q, hq, hended⟩ := ih
    exact ⟨q, after_call answer hq, hended⟩

lemma Reaches.ended {r} (h : Reaches κ p s t q m) (hr : q.ended? = some r) : Runs κ p s t r m := by
  rw [← List.append_nil t]
  cases q with
  | done a => exact Option.some.inj hr ▸ h.runs (.done a m)
  | stuck => exact Option.some.inj hr ▸ h.runs (.stuck m)
  | call c next => cases hr

end CompletionGateway.Program
