import CompletionGateway.Proofs.Program.Runs

/-! Two runs of one program. What a program does not heed in the answers it gets makes no difference to it: among
collaborators that answer alike it makes the same calls and comes to the same result. -/
namespace CompletionGateway.Program
variable {α β σ τ : Type}

/-- Which answers to a call pass for the same. -/
abbrev Likeness := (c : Call) → c.Answer → c.Answer → Prop

/-- After answers that are alike, the program goes on in the same way. -/
def Heedless (A : Likeness) : Program α → Prop
  | .done _ => True
  | .stuck => True
  | .call c next => (∀ a a', A c a a' → next a = next a') ∧ ∀ a, (next a).Heedless A

/-- The same call in two runs: answered alike, and left with states that correspond. -/
inductive Event.Alike (A : Likeness) (R : σ → τ → Prop) : Event σ → Event τ → Prop
  | mk {c a a' m m'} (answers : A c a a') (states : R m m') : Alike A R ⟨c, a, m⟩ ⟨c, a', m'⟩

namespace Heedless
variable {A : Likeness} {p : Program α} {f : α → Program β}

lemma bind (hp : p.Heedless A) (hf : ∀ a, (f a).Heedless A) : (p.bind f).Heedless A := by
  induction p with
  | done a => exact hf a
  | stuck => trivial
  | call c next ih =>
    obtain ⟨hnext, hrest⟩ := hp
    exact ⟨fun a a' ha => congrArg (Program.bind · f) (hnext a a' ha), fun a => ih a (hrest a)⟩

lemma perform_bind {c : Call} {f : c.Answer → Program β} (hf : ∀ a a', A c a a' → f a = f a')
    (hrest : ∀ a, (f a).Heedless A) : ((perform c).bind f).Heedless A := ⟨hf, hrest⟩

lemma perform_heeded {c : Call} {f : c.Answer → Program β} (hc : ∀ {a a'}, A c a a' → a = a')
    (hrest : ∀ a, (f a).Heedless A) : ((perform c).bind f).Heedless A := ⟨fun _ _ ha => congrArg f (hc ha), hrest⟩

/-- Calls with no two answers alike are heeded anyway. -/
lemma of_only {K : Call → Prop} (hp : p.Only K) (hK : ∀ {c}, K c → ∀ {a a'}, A c a a' → a = a') : p.Heedless A := by
  induction p with
  | done a => trivial
  | stuck => trivial
  | call c next ih =>
    obtain ⟨hc, hrest⟩ := hp
    exact ⟨fun a a' ha => congrArg next (hK hc ha), fun a => ih a (hrest a)⟩

lemma andThen {f : Attempt α} {g : α → Attempt β} (hf : f.Heedless A)
    (hg : ∀ a, (g a).Heedless A) : (Attempt.andThen f g).Heedless A := by
  refine hf.bind ?_
  rintro (e | a)
  · trivial
  · exact hg a

/-- Two runs of a program among collaborators that give it answers it takes for the same. -/
theorem record (hp : p.Heedless A) (h : Handler σ) (h' : Handler τ) (R : σ → τ → Prop) (s : σ) (s' : τ) (hs : R s s')
    (step : ∀ c m m', R m m' → ⟨c, (h c m).1, (h c m).2⟩ ∈ (p.record h s).1 →
      A c (h c m).1 (h' c m').1 ∧ R (h c m).2 (h' c m').2) :
    List.Forall₂ (Event.Alike A R) (p.record h s).1 (p.record h' s').1 ∧
      (p.record h s).2.1 = (p.record h' s').2.1 ∧ R (p.record h s).2.2 (p.record h' s').2.2 := by
  induction p generalizing s s' with
  | done a => exact ⟨.nil, rfl, hs⟩
  | stuck => exact ⟨.nil, rfl, hs⟩
  | call c next ih =>
    obtain ⟨hnext, hrest⟩ := hp
    obtain ⟨hlike, hm⟩ := step c s s' hs List.mem_cons_self
    obtain ⟨halike, hr, hend⟩ := ih _ (hrest _) _ _ hm fun d m m' hR he => step d m m' hR (List.mem_cons_of_mem _ he)
    have hrun : (Program.call c next).record h' s' =
        (⟨c, (h' c s').1, (h' c s').2⟩ :: ((next (h c s).1).record h' (h' c s').2).1,
          ((next (h c s).1).record h' (h' c s').2).2) := by
      rw [hnext _ _ hlike]
      rfl
    rw [hrun]
    exact ⟨.cons ⟨hlike, hm⟩ halike, hr, hend⟩

end Heedless

/-- What a run of an attempt was: its calls, what it has come to, and the state that it has left. -/
abbrev RunRecord (σ α : Type) : Type := List (Event σ) × Option (Except PipelineError α) × σ

lemma runs_of_record {h : Handler σ} {p : Program α} {s s' : σ} {t r} (hrecord : p.record h s = (t, r, s')) :
    Runs (fun c s a s' => h c s = (a, s')) p s t r s' := by
  have hrun := record_runs (κ := fun c s a s' => h c s = (a, s')) (h := h) (fun _ _ => rfl) p s
  rwa [hrecord] at hrun

lemma record_only {K : Call → Prop} {p : Program α} (hp : p.Only K) (h : Handler σ) (s : σ) :
    ∀ e ∈ (p.record h s).1, K e.call := (runs_of_record (h := h) rfl).only hp

/-- What is read off a trace in the same way at events that are alike is the same for both runs. -/
lemma filterMap_alike {A : Likeness} {R : σ → τ → Prop} {f : Event σ → Option β} {g : Event τ → Option β}
    (hfg : ∀ {e e'}, Event.Alike A R e e' → f e = g e') {t t'} (h : List.Forall₂ (Event.Alike A R) t t') :
    t.filterMap f = t'.filterMap g := by
  induction h with
  | nil => rfl
  | cons he _ ih => rw [List.filterMap_cons, List.filterMap_cons, hfg he, ih]

end CompletionGateway.Program
