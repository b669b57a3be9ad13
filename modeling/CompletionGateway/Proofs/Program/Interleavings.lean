import CompletionGateway.Proofs.Program.Parts

/-! Programs that take turns. Several programs share a state, and between any two calls of one the others may make
calls of theirs. Seen from one program, the others are part of its collaborators: whatever it finds at a call came
about by what anybody may do to the state. -/
namespace CompletionGateway.Program
variable {σ β : Type}

/-! ### Taking turns -/

/-- A conduct, when in between others may change the state as a relation allows. -/
def amid (R : σ → σ → Prop) (κ : Conduct σ) : Conduct σ := fun c s a s' => ∃ m, R s m ∧ κ c m a s'

lemma amid.of {R : σ → σ → Prop} (refl : ∀ s, R s s) {κ : Conduct σ} {c s a s'} (h : κ c s a s') :
    amid R κ c s a s' := ⟨s, refl s, h⟩

/-- One of the programs that take turns: its calls so far, and what is left of it. -/
structure Strand {ι : Type} (α : ι → Type) (σ : Type) where
  task : ι
  trace : List (Event σ)
  rest : Program (α task)

variable {ι : Type} {α : ι → Type}

def Strand.start (program : (i : ι) → Program (α i)) (σ : Type) (i : ι) : Strand α σ := ⟨i, [], program i⟩

/-- The strand after its next call. -/
def Strand.called (x : Strand α σ) (e : Event σ) (rest : Program (α x.task)) : Strand α σ :=
  ⟨x.task, x.trace ++ [e], rest⟩

/-- Programs that are begun together and take turns in any order, one call at a turn. -/
inductive Interleaved (κ : Conduct σ) (program : (i : ι) → Program (α i)) (tasks : List ι) (s : σ) :
    List (Strand α σ) → σ → Prop
  | start : Interleaved κ program tasks s (tasks.map (.start program σ)) s
  | turn {xs m i x c next a s'} (earlier : Interleaved κ program tasks s xs m) (chosen : xs[i]? = some x)
      (due : x.rest = .call c next) (answer : κ c m a s') :
      Interleaved κ program tasks s (xs.set i (x.called ⟨c, a, s'⟩ (next a))) s'

/-- Calls made one after the other, by whomever. -/
inductive Succession (κ : Conduct σ) (s : σ) : List (Event σ) → σ → Prop
  | start : Succession κ s [] s
  | turn {t m c a s'} (earlier : Succession κ s t m) (answer : κ c m a s') : Succession κ s (t ++ [⟨c, a, s'⟩]) s'

lemma Succession.grows {κ : Conduct σ} {s s' : σ} {t : List (Event σ)} (part : σ → List β)
    (added? : Event σ → Option β)
    (step : ∀ {c s a s'}, κ c s a s' → part s' = part s ++ (added? ⟨c, a, s'⟩).toList) (h : Succession κ s t s') :
    part s' = part s ++ t.filterMap added? := by
  induction h with
  | start => simp
  | @turn t m c a s' earlier answer ih =>
    rw [step answer, ih, List.filterMap_append, List.append_assoc]
    cases hadded : added? ⟨c, a, s'⟩ <;> simp [hadded]

namespace Interleaved
variable {κ : Conduct σ} {program : (i : ι) → Program (α i)} {tasks : List ι} {s s' : σ} {xs : List (Strand α σ)}

lemma tasks_eq (h : Interleaved κ program tasks s xs s') : xs.map (·.task) = tasks := by
  induction h with
  | start =>
    rw [List.map_map]
    exact List.map_id tasks
  | turn earlier chosen due answer ih =>
    obtain ⟨hi, rfl⟩ := List.getElem?_eq_some_iff.mp chosen
    rw [List.map_set, ← ih, Strand.called, ← List.getElem_map Strand.task (h := by rwa [List.length_map]),
      List.set_getElem_self]

/-- Each of the programs runs amid what calls may do to the state, up to the present state. -/
theorem reaches (R : σ → σ → Prop) (refl : ∀ s, R s s) (trans : ∀ {s m s'}, R s m → R m s' → R s s')
    (step : ∀ {c s a s'}, κ c s a s' → R s s') (h : Interleaved κ program tasks s xs s') :
    ∀ x ∈ xs, ∃ m, Reaches (amid R κ) (program x.task) s x.trace x.rest m ∧ R m s' := by
  induction h with
  | start =>
    intro x hx
    obtain ⟨i, -, rfl⟩ := List.mem_map.mp hx
    exact ⟨s, .start, refl s⟩
  | turn earlier chosen due answer ih =>
    intro y hy
    rcases List.mem_or_eq_of_mem_set hy with hy | rfl
    · obtain ⟨m, hreaches, hm⟩ := ih y hy
      exact ⟨m, hreaches, trans hm (step answer)⟩
    · obtain ⟨m, hreaches, hm⟩ := ih _ (List.mem_of_getElem? chosen)
      rw [due] at hreaches
      exact ⟨_, .call hreaches ⟨_, hm, answer⟩, refl _⟩

/-- What stands in a log under a number. -/
lemma mem_entries {log : List (Nat × β)} {i : Nat} {e : β} : e ∈ (log.filter (·.1 = i)).map (·.2) ↔ (i, e) ∈ log := by
  simp

/-- All calls in the order in which they were made, each under the number of its program. -/
theorem turns (h : Interleaved κ program tasks s xs s') :
    ∃ log : List (Nat × Event σ), Succession κ s (log.map (·.2)) s' ∧ (∀ e ∈ log, e.1 < xs.length) ∧
      ∀ i x, xs[i]? = some x → x.trace = (log.filter (·.1 = i)).map (·.2) := by
  induction h with
  | start =>
    refine ⟨[], .start, by simp, ?_⟩
    intro i x hx
    rw [List.getElem?_map, Option.map_eq_some_iff] at hx
    obtain ⟨j, -, rfl⟩ := hx
    rfl
  | @turn xs m i x c next a s' earlier chosen due answer ih =>
    obtain ⟨log, hlog, hlt, htraces⟩ := ih
    have hi : i < xs.length := (List.getElem?_eq_some_iff.mp chosen).1
    refine ⟨log ++ [(i, ⟨c, a, s'⟩)], ?_, ?_, ?_⟩
    · rw [List.map_append]
      exact hlog.turn answer
    · intro e he
      rw [List.length_set]
      rcases List.mem_append.mp he with he | he
      · exact hlt e he
      · rw [List.mem_singleton.mp he]
        exact hi
    · intro j y hy
      rw [List.filter_append, List.map_append]
      by_cases hj : i = j
      · subst hj
        rw [List.getElem?_set_self hi] at hy
        obtain rfl := Option.some.inj hy
        rw [← htraces i x chosen]
        simp [Strand.called]
      · rw [List.getElem?_set_ne hj] at hy
        rw [← htraces j y hy]
        simp [hj]

/-- What all the programs have added to a part of the state, each addition under the number of its program. -/
theorem logged (part : σ → List β) (added? : Event σ → Option β)
    (step : ∀ {c s a s'}, κ c s a s' → part s' = part s ++ (added? ⟨c, a, s'⟩).toList)
    (h : Interleaved κ program tasks s xs s') :
    ∃ log : List (Nat × β), part s' = part s ++ log.map (·.2) ∧ (∀ e ∈ log, e.1 < xs.length) ∧
      ∀ i x, xs[i]? = some x → x.trace.filterMap added? = (log.filter (·.1 = i)).map (·.2) := by
  obtain ⟨log, hlog, hlt, htraces⟩ := h.turns
  refine ⟨log.filterMap fun e => (added? e.2).map (Prod.mk e.1), ?_, ?_, ?_⟩
  · rw [hlog.grows part added? step, List.filterMap_map, List.map_filterMap]
    simp [Function.comp_def, Option.map_map]
  · intro e he
    obtain ⟨e', he', hadded⟩ := List.mem_filterMap.mp he
    obtain ⟨b, -, rfl⟩ := Option.map_eq_some_iff.mp hadded
    exact hlt e' he'
  · intro i x hx
    rw [htraces i x hx, List.filterMap_map, List.filterMap_filter, List.filter_filterMap, List.map_filterMap]
    refine List.filterMap_congr fun e _ => ?_
    by_cases he : e.1 = i <;> cases hadded : added? e.2 <;> simp [he, hadded]

end Interleaved

/-! ### Turns under a handler -/

/-- Make the next call of a strand, if there is one. -/
def Strand.advance (h : Handler σ) (x : Strand α σ) (s : σ) : Strand α σ × σ :=
  match x.rest with
  | .call c next => let r := h c s; (x.called ⟨c, r.1, r.2⟩ (next r.1), r.2)
  | _ => (x, s)

/-- Give turns to the strands of a schedule, one after the other. -/
def takeTurns (h : Handler σ) : List Nat → List (Strand α σ) × σ → List (Strand α σ) × σ
  | [], r => r
  | i :: is, (xs, s) =>
    match xs[i]? with
    | some x => let r := x.advance h s; takeTurns h is (xs.set i r.1, r.2)
    | none => takeTurns h is (xs, s)

/-- A handler that keeps to a conduct interleaves the programs as the conduct allows. -/
theorem Interleaved.takeTurns {κ : Conduct σ} {h : Handler σ} (hκ : ∀ c s, κ c s (h c s).1 (h c s).2)
    {program : (i : ι) → Program (α i)} {tasks : List ι} {s m : σ} {xs : List (Strand α σ)}
    (earlier : Interleaved κ program tasks s xs m) (is : List Nat) :
    Interleaved κ program tasks s (Program.takeTurns h is (xs, m)).1 (Program.takeTurns h is (xs, m)).2 := by
  induction is generalizing xs m with
  | nil => exact earlier
  | cons i is ih =>
    unfold Program.takeTurns
    cases hx : xs[i]? with
    | none => exact ih earlier
    | some x =>
      refine ih ?_
      unfold Strand.advance
      split
      · rename_i c next hrest
        exact .turn earlier hx hrest (hκ c m)
      · obtain ⟨hi, rfl⟩ := List.getElem?_eq_some_iff.mp hx
        rw [List.set_getElem_self]
        exact earlier

end CompletionGateway.Program
