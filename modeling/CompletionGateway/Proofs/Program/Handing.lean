import CompletionGateway.Completion.Forwarding
import CompletionGateway.Proofs.Program.Runs

/-! Handing items to a consumer that may refuse one. A run tells exactly which items the consumer was offered: a front part
of the list, all of it taken but perhaps its last item, and nothing behind an item that was refused. A feed that is
delivered ends with the first failure, the refusal coming before its own. -/
namespace CompletionGateway.Program
variable {α β σ : Type} {κ : Conduct σ}

lemma bind_eq_self {p : Program α} {f : α → Program α} (hf : ∀ a, f a = .done a) : p.bind f = p := by
  induction p with
  | done a => exact hf a
  | stuck => rfl
  | call c next ih => exact congrArg (call c) (funext ih)

lemma bind_eq_bind (p : Program α) {f g : α → Program β} (hfg : ∀ a, f a = g a) : p.bind f = p.bind g :=
  congrArg p.bind (funext hfg)

/-! ### Handing on a list -/

lemma handAll_append (sink : α → Program (Except ProviderError Unit)) (as bs : List α) :
    handAll sink (as ++ bs) = (handAll sink as).bind fun
      | .ok () => handAll sink bs
      | .error e => .done (.error e) := by
  induction as with
  | nil => rfl
  | cons a as ih =>
    rw [List.cons_append, handAll, handAll, bind_assoc]
    refine bind_eq_bind (sink a) ?_
    rintro (e | u)
    · rfl
    · exact ih

lemma handAll_singleton (sink : α → Program (Except ProviderError Unit)) (a : α) : handAll sink [a] = sink a := by
  refine bind_eq_self ?_
  rintro (e | u) <;> rfl

/-- A consumer was offered these items and no others, one by one, and took all but perhaps the last. What it answered last
is told, unless it never answered. -/
inductive Offered (κ : Conduct σ) (sink : α → Program (Except ProviderError Unit)) :
    σ → List (Event σ) → List α → Option (Except ProviderError Unit) → σ → Prop
  | nil (s) : Offered κ sink s [] [] (some (.ok ())) s
  | taken {a s t m t' as r s'} (answer : Runs κ (sink a) s t (some (.ok ())) m) (more : Offered κ sink m t' as r s') :
      Offered κ sink s (t ++ t') (a :: as) r s'
  | refused {a s t e s'} (answer : Runs κ (sink a) s t (some (.error e)) s') :
      Offered κ sink s t [a] (some (.error e)) s'
  | unanswered {a s t s'} (answer : Runs κ (sink a) s t none s') : Offered κ sink s t [a] none s'

variable {sink : α → Program (Except ProviderError Unit)}

lemma runs_handAll {items : List α} {s t r s'} (h : Runs κ (handAll sink items) s t r s') :
    ∃ offered, Offered κ sink s t offered r s' ∧ offered <+: items ∧ (r = some (.ok ()) → offered = items) := by
  induction items generalizing s t with
  | nil =>
    obtain ⟨rfl, rfl, rfl⟩ := runs_done.mp h
    exact ⟨[], .nil _, List.prefix_rfl, fun _ => rfl⟩
  | cons a items ih =>
    rcases runs_bind.mp h with ⟨x, m, t₁, t₂, answer, hrest, rfl⟩ | ⟨answer, rfl⟩
    · cases x with
      | ok u =>
        obtain ⟨offered, hoffered, hfront, hall⟩ := ih hrest
        exact ⟨a :: offered, .taken answer hoffered, (List.prefix_cons_inj a).mpr hfront,
          fun hr => congrArg (a :: ·) (hall hr)⟩
      | error e =>
        obtain ⟨rfl, rfl, rfl⟩ := runs_done.mp hrest
        rw [List.append_nil]
        exact ⟨[a], .refused answer, by simp, fun hr => nomatch hr⟩
    · exact ⟨[a], .unanswered answer, by simp, fun hr => nomatch hr⟩

namespace Offered
variable {s s' : σ} {t : List (Event σ)} {as : List α} {r : Option (Except ProviderError Unit)}

/-- Offering makes no calls but those of the consumer. -/
lemma only {K : Call → Prop} (h : Offered κ sink s t as r s') (hsink : ∀ a, (sink a).Only K) : ∀ x ∈ t, K x.call := by
  induction h with
  | nil s => simp
  | taken answer more ih =>
    intro x hx
    rcases List.mem_append.mp hx with hx | hx
    · exact answer.only (hsink _) x hx
    · exact ih x hx
  | refused answer => exact answer.only (hsink _)
  | unanswered answer => exact answer.only (hsink _)

/-- A consumer that takes whatever it is offered has refused nothing. -/
lemma accepted (h : Offered κ sink s t as r s')
    (hsink : ∀ a s t r s', Runs κ (sink a) s t r s' → r = some (.ok ())) : r = some (.ok ()) := by
  induction h with
  | nil s => rfl
  | taken answer more ih => exact ih
  | refused answer => exact hsink _ _ _ _ _ answer
  | unanswered answer => cases hsink _ _ _ _ _ answer

/-- What was handed on under another form was offered in that form. -/
lemma map {ι : Type} {f : ι → α} {is : List ι} (h : Offered κ (fun i => sink (f i)) s t is r s') :
    Offered κ sink s t (is.map f) r s' := by
  induction h with
  | nil s => exact .nil s
  | taken answer more ih => exact .taken answer ih
  | refused answer => exact .refused answer
  | unanswered answer => exact .unanswered answer

end Offered
end CompletionGateway.Program

/-! ### Delivering a feed -/

namespace CompletionGateway.Feed
open Program
variable {σ : Type} {κ : Conduct σ} {feed : Feed} {sink : ChunkSink} {s s' : σ}

/-- What a delivery comes to if the consumer has answered so in the end. -/
def verdict (feed : Feed) : Option (Except ProviderError Unit) → Option (Except ProviderError Unit)
  | some (.ok ()) =>
    match feed.ending with
    | .finished => some (.ok ())
    | .failed e => some (.error e)
    | .silent => none
  | answer => answer

/-- The first failure of a delivery: the refusal of its consumer, or else the failure that the feed ends with. -/
def firstFailure? (feed : Feed) : Option (Except ProviderError Unit) → Option ProviderError
  | some (.error e) => some e
  | some (.ok ()) =>
    match feed.ending with
    | .failed e => some e
    | _ => none
  | none => none

lemma verdict_eq_ok {answer} :
    feed.verdict answer = some (.ok ()) ↔ answer = some (.ok ()) ∧ feed.ending = .finished := by
  obtain ⟨chunks, ending⟩ := feed
  match answer with
  | none => simp [verdict]
  | some (.error e) => simp [verdict]
  | some (.ok ()) => cases ending <;> simp [verdict]

lemma verdict_eq_error {answer} {e : ProviderError} :
    feed.verdict answer = some (.error e) ↔ feed.firstFailure? answer = some e := by
  obtain ⟨chunks, ending⟩ := feed
  match answer with
  | none => simp [verdict, firstFailure?]
  | some (.error e) => simp [verdict, firstFailure?]
  | some (.ok ()) => cases ending <;> simp [verdict, firstFailure?]

lemma verdict_eq_none {answer} :
    feed.verdict answer = none ↔ answer = none ∨ answer = some (.ok ()) ∧ feed.ending = .silent := by
  obtain ⟨chunks, ending⟩ := feed
  match answer with
  | none => simp [verdict]
  | some (.error e) => simp [verdict]
  | some (.ok ()) => cases ending <;> simp [verdict]

lemma firstFailure?_of_failed {e : ProviderError} (h : feed.ending = .failed e) :
    feed.firstFailure? (some (.ok ())) = some e := by
  unfold firstFailure?
  rw [h]

lemma runs_deliver {t r} (h : Runs κ (feed.deliver sink) s t r s') :
    ∃ offered answer, Offered κ sink s t offered answer s' ∧ offered <+: feed.chunks ∧
      (answer = some (.ok ()) → offered = feed.chunks) ∧ r = feed.verdict answer := by
  rcases runs_bind.mp h with ⟨x, m, t₁, t₂, hhanded, hrest, rfl⟩ | ⟨hhanded, rfl⟩
  · obtain ⟨offered, hoffered, hfront, hall⟩ := runs_handAll hhanded
    have hend : t₂ = [] ∧ r = feed.verdict (some x) ∧ s' = m := by
      cases x with
      | error e => exact runs_done.mp hrest
      | ok u =>
        obtain ⟨chunks, ending⟩ := feed
        cases ending with
        | finished => exact runs_done.mp hrest
        | failed e => exact runs_done.mp hrest
        | silent => exact runs_stuck.mp hrest
    obtain ⟨rfl, rfl, rfl⟩ := hend
    rw [List.append_nil]
    exact ⟨offered, some x, hoffered, hfront, hall, rfl⟩
  · obtain ⟨offered, hoffered, hfront, hall⟩ := runs_handAll hhanded
    exact ⟨offered, none, hoffered, hfront, hall, rfl⟩

end CompletionGateway.Feed
