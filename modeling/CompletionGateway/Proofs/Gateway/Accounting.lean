import CompletionGateway.Proofs.Address
import CompletionGateway.Proofs.Admission.LocalWindow
import CompletionGateway.Proofs.Gateway.Unmetered
import CompletionGateway.Proofs.Program.Interleavings

/-! Every request is accounted for. An exempt one leaves the windows alone and is told nothing of them. Any other is
counted once, before its route is asked, by the address of its peer and by nothing else; it is told the decision, whatever
its route answers. With windows in a single process, no peer has more requests let through in the length of a window than
the policy allows. -/
namespace CompletionGateway
open Program Gateway

namespace Gateway

/-! ### What admission puts on a reply -/

lemma values_set_other {name name' : String} (hname : name ∈ rateHeaders) (hother : name' ∉ rateHeaders) (head : Http.Head)
    (value : String) : (head.set name' value).values name = head.values name := by
  refine head.values_set_of_ne ?_ value
  rintro rfl
  exact hother hname

/-- A reply tells a decision: the limit and what is left of it, and with a denial its status and the time to wait. -/
structure Tells (d : Admission.Decision) (reply : Reply) : Prop where
  limit : reply.head.values "x-ratelimit-limit" = [toString d.limit.toNat]
  remaining : reply.head.values "x-ratelimit-remaining" = [toString d.remaining.toNat]
  wait : reply.head.values "retry-after" = (d.retryAfter.map fun nanos => toString (Service.seconds nanos)).toList
  status : reply.head.status = 429 ↔ d.admitted = false
  waits : reply.head.values "retry-after" ≠ [] ↔ d.admitted = false

lemma retryAfter_decide (policy : Admission.Policy) (answer : Except AdmissionError Admission.Outcome) :
    (policy.decide answer).retryAfter = if (policy.decide answer).admitted then none else some policy.window := by
  rcases answer with e | ⟨admitted, count⟩
  · rfl
  · cases admitted <;> rfl

lemma withDecision_values (d : Admission.Decision) {reply : Reply} (h : reply.head.values "retry-after" = []) :
    (Service.withDecision d reply).head.values "x-ratelimit-limit" = [toString d.limit.toNat] ∧
    (Service.withDecision d reply).head.values "x-ratelimit-remaining" = [toString d.remaining.toNat] ∧
    (Service.withDecision d reply).head.values "retry-after" =
      (d.retryAfter.map fun nanos => toString (Service.seconds nanos)).toList := by
  have hlimit (head : Http.Head) (value : String) : ((head.set "x-ratelimit-limit" (toString d.limit.toNat)).set
      "x-ratelimit-remaining" value).values "x-ratelimit-limit" = [toString d.limit.toNat] := by
    rw [Http.Head.values_set_of_ne _ (by decide), Http.Head.values_set]
  unfold Service.withDecision
  dsimp only [Reply.set]
  cases hretry : d.retryAfter with
  | none =>
    refine ⟨hlimit _ _, Http.Head.values_set _ _ _, ?_⟩
    rw [Http.Head.values_set_of_ne _ (by decide), Http.Head.values_set_of_ne _ (by decide), h]
    rfl
  | some wait =>
    refine ⟨?_, ?_, Http.Head.values_set _ _ _⟩
    · exact (Http.Head.values_set_of_ne _ (by decide) _).trans (hlimit _ _)
    · exact (Http.Head.values_set_of_ne _ (by decide) _).trans (Http.Head.values_set _ _ _)

namespace Service
variable {σ : Type} {κ : Conduct σ} {s m : σ} {t : List (Program.Event σ)} {g : Service} {r : Http.Request}

/-- A reply with all that is put on it on its way out. -/
def dressed (g : Service) (r : Http.Request) (reply : Reply) : Reply := withMethod r (withAllow r (g.withOrigin r reply))

lemma withMethod_head (reply : Reply) : (withMethod r reply).head = reply.head := by
  unfold withMethod
  split <;> rfl

lemma dressed_status (reply : Reply) : (g.dressed r reply).head.status = reply.head.status := by
  have hallow : ∀ reply, (withAllow r reply).head.status = reply.head.status := by
    intro reply
    unfold withAllow
    split
    · split
      · rfl
      · simp only [Reply.setDefault, Http.Head.setDefault]
        split <;> rfl
    · rfl
  rw [dressed, withMethod_head, hallow]
  exact ((Adds.refl reply).withOrigin g r).status

/-- Nothing else that is put on a reply tells of admission. -/
lemma dressed_values {name : String} (h : name ∈ rateHeaders) (reply : Reply) :
    (g.dressed r reply).head.values name = reply.head.values name := by
  have horigin : ∀ reply, (g.withOrigin r reply).head.values name = reply.head.values name := by
    intro reply
    have hvary := values_set_other h (show "vary" ∉ rateHeaders by decide) reply.head
      "origin, access-control-request-method, access-control-request-headers"
    unfold withOrigin
    dsimp only
    split
    · exact (values_set_other h (show "access-control-allow-origin" ∉ rateHeaders by decide) _ _).trans hvary
    · exact hvary
  have hallow : ∀ reply, (withAllow r reply).head.values name = reply.head.values name := by
    intro reply
    unfold withAllow
    split
    · split
      · rfl
      · exact Http.Head.values_setDefault_of_ne _ (fun heq => absurd (heq ▸ h) (by decide)) _
    · rfl
  rw [dressed, withMethod_head, hallow, horigin]

lemma dressed_writer {reply : Reply} {writer : Program Unit} (h : (g.dressed r reply).body = .events writer) :
    reply.body = .events writer := by
  rcases dressed_body (g := g) (r := r) reply with hwhole | hbody
  · exact absurd h hwhole.not_events
  · exact hbody.symm.trans h

lemma silent_dressed {reply : Reply} (h : reply.Silent) : (g.dressed r reply).Silent where
  status := by
    rw [dressed_status]
    exact h.status
  headers name hname := by
    rw [dressed_values hname]
    exact h.headers name hname
  body writer hwriter := h.body writer (dressed_writer hwriter)

/-- What the route of a request answers, with something put on the reply, to the end of its body. -/
def answer (g : Service) (r : Http.Request) (f : Reply → Reply) : Program Reply :=
  Program.bind (g.dispatch r) fun reply => (g.dressed r (f reply)).deliver

/-- The reply to a request that is denied. -/
def denial (d : Admission.Decision) : Reply :=
  withDecision d (Reply.ofError (.admissionDenied (seconds (d.retryAfter.getD 0))))

/-- The reply on its way out tells the decision that was put on it. -/
lemma tells_dressed {answer : Except AdmissionError Admission.Outcome} {reply : Reply}
    (hwait : reply.head.values "retry-after" = [])
    (hstatus : reply.head.status = 429 ↔ (g.policy.decide answer).admitted = false) :
    Tells (g.policy.decide answer) (g.dressed r (withDecision (g.policy.decide answer) reply)) := by
  obtain ⟨hlimit, hremaining, hretry⟩ := withDecision_values (g.policy.decide answer) hwait
  refine ⟨?_, ?_, ?_, ?_, ?_⟩
  · rw [dressed_values (by decide), hlimit]
  · rw [dressed_values (by decide), hremaining]
  · rw [dressed_values (by decide), hretry]
  · rw [dressed_status, ((Adds.refl reply).withDecision _).status, hstatus]
  · rw [dressed_values (by decide), hretry, retryAfter_decide]
    split <;> simp_all

lemma tells_denial {answer : Except AdmissionError Admission.Outcome} (h : (g.policy.decide answer).admitted = false) :
    Tells (g.policy.decide answer) (g.dressed r (denial (g.policy.decide answer))) := by
  refine tells_dressed ?_ ?_
  · simp [Reply.ofError, Reply.failure, Reply.json, Http.Head.values]
  · simp [h, Reply.ofError, Reply.failure, Reply.json, PipelineError.status]

/-! ### The passage of a request -/

/-- How far a request has gone on its way to its route and back. -/
inductive Passage (κ : Conduct σ) (g : Service) (r : Http.Request) (s : σ) :
    List (Program.Event σ) → Program Reply → σ → Prop
  /-- An exempt request goes straight to its route. -/
  | exempt {t rest m} (exempt : g.exemptPaths.contains r.path = true) (inner : Reaches κ (g.answer r id) s t rest m)
      (uncounted : ∀ e ∈ t, ¬ Counting e.call) (silent : ∀ reply, rest = .done reply → reply.Silent) :
      Passage κ g r s t rest m
  /-- One that is not exempt is counted first. -/
  | waiting (counted : g.exemptPaths.contains r.path = false) : Passage κ g r s [] (g.exchange r) s
  /-- A request that is admitted goes on to its route, and the reply tells the decision. -/
  | admitted {answer k t rest m} (counted : g.exemptPaths.contains r.path = false)
      (hit : κ (.hit (windowKey r) g.policy) s answer k) (room : (g.policy.decide answer).admitted = true)
      (inner : Reaches κ (g.answer r (withDecision (g.policy.decide answer))) k t rest m)
      (once : ∀ e ∈ t, ¬ Counting e.call) (tells : ∀ reply, rest = .done reply → Tells (g.policy.decide answer) reply) :
      Passage κ g r s (⟨.hit (windowKey r) g.policy, answer, k⟩ :: t) rest m
  /-- One that is denied is answered at once. -/
  | denied {answer k reply} (counted : g.exemptPaths.contains r.path = false)
      (hit : κ (.hit (windowKey r) g.policy) s answer k) (full : (g.policy.decide answer).admitted = false)
      (tells : Tells (g.policy.decide answer) reply) :
      Passage κ g r s [⟨.hit (windowKey r) g.policy, answer, k⟩] (.done reply) k

lemma deliver_within {reply : Reply} {P : Reply → Prop} (hP : P reply)
    (hbody : ∀ writer, reply.body = .events writer → writer.Only (¬ Counting ·)) :
    reply.deliver.Within (¬ Counting ·) P := by
  unfold Reply.deliver
  split
  · exact .done hP
  · rename_i writer hwriter
    exact .after (hbody writer hwriter) fun _ => .done hP

/-- What a route does counts nothing, and what is put on its replies comes with them. -/
lemma answer_within {f : Reply → Reply} {P : Reply → Prop} (hf : ∀ reply, (f reply).body = reply.body)
    (hP : ∀ reply : Reply, reply.Silent → P (g.dressed r (f reply))) : (g.answer r f).Within (¬ Counting ·) P := by
  refine Within.bind silent_dispatch fun reply hsilent => deliver_within (hP reply hsilent) fun writer hwriter => ?_
  exact hsilent.body writer ((hf reply).symm.trans (dressed_writer hwriter))

lemma exchange_preflight (h : r.method = "OPTIONS") : g.exchange r = .done (withAllow r (g.preflight r)) := by
  have hwhole : (withAllow r (g.preflight r)).IsWhole :=
    ⟨_, (withAllow_body _).trans ((Adds.refl _).withOrigin g r).body⟩
  rw [exchange, serve, if_pos h]
  exact hwhole.deliver

lemma exchange_eq (h : r.method ≠ "OPTIONS") :
    g.exchange r = Program.bind (g.withAdmission r (g.dispatch r)) fun reply => (g.dressed r reply).deliver := by
  rw [exchange, serve, if_neg h, Program.bind_assoc]
  rfl

lemma exchange_exempt (h : r.method ≠ "OPTIONS") (hexempt : g.exemptPaths.contains r.path = true) :
    g.exchange r = g.answer r id := by
  rw [exchange_eq h, withAdmission, if_pos hexempt]
  rfl

lemma denial_deliver (d : Admission.Decision) :
    (g.dressed r (denial d)).deliver = .done (g.dressed r (denial d)) := by
  have hdenial : (denial d).IsWhole := ⟨_, ((Adds.refl _).withDecision d).body⟩
  refine Reply.IsWhole.deliver ?_
  rcases dressed_body (g := g) (r := r) (denial d) with hwhole | hbody
  · exact hwhole
  · exact hdenial.imp fun text htext => hbody.trans htext

/-- A request that is not exempt is counted, and what follows depends on the decision. -/
lemma exchange_counted (h : r.method ≠ "OPTIONS") (hcounted : g.exemptPaths.contains r.path = false) :
    g.exchange r = .call (.hit (windowKey r) g.policy) fun answer =>
      if (g.policy.decide answer).admitted then g.answer r (withDecision (g.policy.decide answer))
      else .done (g.dressed r (denial (g.policy.decide answer))) := by
  rw [exchange_eq h, withAdmission, if_neg (by rw [hcounted]; decide), Program.bind_assoc]
  refine congrArg (Program.call _) (funext fun answer => ?_)
  dsimp only [Program.bind]
  split
  · exact Program.bind_assoc _ _ _
  · exact denial_deliver _

/-- Of a program within bounds, what has been done is within them, and so is the value that it has come to. -/
lemma reaches_within {P : Reply → Prop} {p rest : Program Reply} (h : Reaches κ p s t rest m)
    (hp : p.Within (¬ Counting ·) P) : (∀ e ∈ t, ¬ Counting e.call) ∧ ∀ reply, rest = .done reply → P reply := by
  obtain ⟨honly, hrest⟩ := h.within hp
  refine ⟨honly, ?_⟩
  rintro reply rfl
  cases hrest with
  | done value => exact value

/-- Every request takes its passage. -/
lemma passage (hmethod : r.method ≠ "OPTIONS") {rest : Program Reply} (h : Reaches κ (g.exchange r) s t rest m) :
    Passage κ g r s t rest m := by
  cases hexempt : g.exemptPaths.contains r.path with
  | true =>
    rw [exchange_exempt hmethod hexempt] at h
    obtain ⟨huncounted, hsilent⟩ := reaches_within h (answer_within (f := id) (fun _ => rfl) fun _ => silent_dressed)
    exact .exempt hexempt h huncounted hsilent
  | false =>
    have hexchange := exchange_counted hmethod hexempt
    rw [hexchange] at h
    rcases reaches_call h with ⟨rfl, rfl, rfl⟩ | ⟨answer, k, t', hit, hrest, rfl⟩
    · rw [← hexchange]
      exact .waiting hexempt
    · split at hrest
      · rename_i hroom
        obtain ⟨honce, htells⟩ := reaches_within hrest <| answer_within
          (fun reply => ((Adds.refl reply).withDecision _).body) fun reply hsilent =>
            tells_dressed (hsilent.headers _ (by decide)) (by simp [hsilent.status, hroom])
        exact .admitted hexempt hit hroom hrest honce htells
      · rename_i hfull
        rw [Bool.not_eq_true] at hfull
        obtain ⟨rfl, rfl, rfl⟩ := reaches_done hrest
        exact .denied hexempt hit hfull (tells_denial hfull)

/-! ### Keys -/

lemma clientKey_injective : Function.Injective Admission.clientKey := by
  intro a b h
  rw [Admission.clientKey, Admission.clientKey, ← String.toList_inj, String.toList_append, String.toList_append] at h
  exact Address.text_injective (String.toList_inj.mp (List.append_cancel_left h))

lemma clientKey_ne_unknown (a : Address) : Admission.clientKey a ≠ Admission.unknownClient := by
  intro h
  have htext : a.text.toList = "unknown".toList := by
    rw [Admission.clientKey, Admission.unknownClient, ← String.toList_inj, String.toList_append] at h
    exact List.append_cancel_left (show "rl:".toList ++ a.text.toList = "rl:".toList ++ "unknown".toList from h)
  refine Address.not_mem_text (show Address.NoDigit 'u' by decide) (by decide) (by decide) a ?_
  rw [htext]
  decide

/-- Two requests are counted together if they come from one address, or both from none that is known. -/
lemma windowKey_eq_iff {r r' : Http.Request} : windowKey r = windowKey r' ↔ r.peer = r'.peer := by
  unfold windowKey
  cases r.peer with
  | none =>
    cases r'.peer with
    | none => simp
    | some b => simp [(clientKey_ne_unknown b).symm]
  | some a =>
    cases r'.peer with
    | none => simp [clientKey_ne_unknown a]
    | some b => simp [clientKey_injective.eq_iff]

/-! ### Windows in a single process -/

/-- The windows are those of a single process, beside which time goes on; nothing but a hit changes them. -/
structure HoldsWindows (κ : Conduct σ) (windows : σ → Admission.LocalWindow) (clock : σ → Nat) : Prop where
  counted : ∀ {key p s a s'}, κ (.hit key p) s a s' →
    a = .ok ((windows s).hit (clock s') key p.limit p.window).1 ∧
      windows s' = ((windows s).hit (clock s') key p.limit p.window).2
  kept : ∀ {c s a s'}, κ c s a s' → ¬ Counting c → windows s' = windows s
  onward : ∀ {c s a s'}, κ c s a s' → clock s ≤ clock s'

variable {windows : σ → Admission.LocalWindow} {clock : σ → Nat} {s' : σ} {policy : Admission.Policy}

lemma HoldsWindows.unmoved (h : HoldsWindows κ windows clock) {rest : Program Reply} {p : Program Reply}
    (hreaches : Reaches κ p s t rest m) (ht : ∀ e ∈ t, ¬ Counting e.call) : windows m = windows s :=
  (hreaches.related (fun s s' => windows s' = windows s) (fun _ => rfl) (fun h h' => h'.trans h)
    fun e he _ hκ => h.kept hκ (ht e he)).1

/-- The verdict of a call that counts a request. -/
def verdict? (clock : σ → Nat) : Program.Event σ → Option Admission.Verdict
  | ⟨.hit key policy, answer, m⟩ => some ⟨⟨key, clock m⟩, policy.decide answer⟩
  | _ => none

lemma verdict?_eq_none {e : Program.Event σ} (h : ¬ Counting e.call) : verdict? clock e = none := by
  obtain ⟨c, a, m⟩ := e
  cases c <;> first | rfl | exact absurd trivial h

/-- Each verdict is that of a policy that counts all that were admitted before. -/
def Sound (policy : Admission.Policy) (vs : List Admission.Verdict) : Prop :=
  ∀ pre v post, vs = pre ++ v :: post → v.decision = policy.verdict (Admission.admittedWithin policy.window pre v.arrival)

lemma Sound.snoc {vs : List Admission.Verdict} (h : Sound policy vs) {v : Admission.Verdict}
    (hv : v.decision = policy.verdict (Admission.admittedWithin policy.window vs v.arrival)) :
    Sound policy (vs ++ [v]) := by
  intro pre w post hsplit
  rcases List.eq_nil_or_concat post with rfl | ⟨post, x, rfl⟩
  · obtain ⟨rfl, hlast⟩ := List.append_inj' hsplit rfl
    rw [← List.singleton_inj.mp hlast]
    exact hv
  · rw [List.concat_eq_append, ← List.cons_append, ← List.append_assoc] at hsplit
    exact h pre w post (List.append_inj' hsplit rfl).1

/-- Whoever makes the calls, the windows track what was admitted, and every verdict is sound. -/
lemma HoldsWindows.tracks (h : HoldsWindows κ windows clock) (hs : windows s = .empty) (hlog : Succession κ s t s')
    (hpolicy : ∀ e ∈ t, ∀ {key p}, e.call = .hit key p → p = policy) :
    Admission.LocalWindow.Tracks policy.window (Admission.Policy.admitted (t.filterMap (verdict? clock))) (clock s')
      (windows s') ∧ Sound policy (t.filterMap (verdict? clock)) := by
  induction hlog with
  | start =>
    rw [hs]
    exact ⟨Admission.LocalWindow.tracks_empty _ _, fun pre v post hsplit => by simp at hsplit⟩
  | @turn t m c a s' earlier answer ih =>
    obtain ⟨htracks, hsound⟩ := ih fun e he => hpolicy e (List.mem_append_left _ he)
    have hlater := htracks.later (h.onward answer)
    rw [List.filterMap_append]
    by_cases hc : Counting c
    · cases c with
      | hit key p =>
        obtain rfl := hpolicy _ (List.mem_append_right _ List.mem_cons_self) rfl
        obtain ⟨rfl, hwindows⟩ := h.counted answer
        obtain ⟨hdecision, hnext⟩ := p.allow_eq (a := ⟨key, clock s'⟩) hlater
        rw [hwindows]
        exact ⟨hnext, hsound.snoc hdecision⟩
      | _ => exact hc.elim
    · rw [List.filterMap_cons_none (verdict?_eq_none hc), List.filterMap_nil, List.append_nil, h.kept answer hc]
      exact ⟨hlater, hsound⟩

/-! ### Requests among others -/

/-- The time at which a request was let through to its route: that of the hit that admitted it. -/
def letThrough? (g : Service) (clock : σ → Nat) : List (Program.Event σ) → Option Nat
  | ⟨.hit _ _, answer, m⟩ :: _ => if (g.policy.decide answer).admitted then some (clock m) else none
  | _ => none

/-- Whatever is counted for a request is counted by the address of its peer. -/
lemma hit_eq {rest : Program Reply} (h : Reaches κ (g.exchange r) s t rest m) {e : Program.Event σ} (he : e ∈ t)
    (hcounting : Counting e.call) : e.call = .hit (windowKey r) g.policy := by
  by_cases hmethod : r.method = "OPTIONS"
  · rw [exchange_preflight hmethod] at h
    obtain ⟨rfl, -, -⟩ := reaches_done h
    cases he
  · cases passage hmethod h with
    | exempt _ _ uncounted _ => exact absurd hcounting (uncounted e he)
    | waiting _ => cases he
    | admitted _ _ _ _ once _ =>
      rcases List.mem_cons.mp he with rfl | he
      · rfl
      · exact absurd hcounting (once e he)
    | denied _ _ _ _ =>
      rw [List.mem_singleton.mp he]

/-- If every marked member of a list has an entry of its own in a log, there are no more of them than of such entries. -/
lemma countP_le_marks {α γ : Type} {xs : List α} {C : α → Bool} {log : List (Nat × γ)} {P : γ → Bool}
    (h : ∀ i x, xs[i]? = some x → C x = true → ∃ e ∈ log, e.1 = i ∧ P e.2 = true) :
    xs.countP C ≤ (log.map (·.2)).countP P := by
  have hplaces : xs.countP C = ((xs.zipIdx.filter (C ·.1)).map (·.2)).length := by
    rw [List.length_map, ← List.countP_eq_length_filter]
    conv_lhs => rw [← List.zipIdx_map_fst 0 xs]
    exact List.countP_map
  have hentries : (log.map (·.2)).countP P = ((log.filter (P ·.2)).map (·.1)).length := by
    rw [List.length_map, ← List.countP_eq_length_filter]
    exact List.countP_map
  have hnodup : ((xs.zipIdx.filter (C ·.1)).map (·.2)).Nodup := by
    refine List.Nodup.sublist (List.filter_sublist.map _) ?_
    rw [List.zipIdx_map_snd]
    exact List.nodup_range'
  rw [hplaces, hentries]
  refine (hnodup.subperm ?_).length_le
  intro i hi
  obtain ⟨⟨x, j⟩, hx, rfl⟩ := List.mem_map.mp hi
  obtain ⟨hmem, hC⟩ := List.mem_filter.mp hx
  obtain ⟨e, he, hindex, hP⟩ := h j x (List.mem_zipIdx_iff_getElem?.mp hmem) hC
  exact List.mem_map.mpr ⟨e, List.mem_filter.mpr ⟨he, hP⟩, hindex⟩

lemma letThrough?_eq_some {time : Nat} (h : g.letThrough? clock t = some time) :
    ∃ key policy answer k rest, t = ⟨.hit key policy, answer, k⟩ :: rest ∧ (g.policy.decide answer).admitted = true ∧
      clock k = time := by
  unfold letThrough? at h
  split at h
  · rename_i key policy answer k rest
    split at h
    · rename_i hadmitted
      exact ⟨key, policy, answer, k, rest, rfl, hadmitted, Option.some.inj h⟩
    · cases h
  · cases h

/-- The request was let through to its route within the length of a window from a time on. -/
def letThroughFrom (g : Service) (clock : σ → Nat) (start : Nat) (t : List (Program.Event σ)) : Bool :=
  (g.letThrough? clock t).any fun time => decide (start ≤ time ∧ time < start + g.policy.window)

/-- The verdict by which a request was let through. -/
lemma verdict_of_letThroughFrom {key : String} (hcounted : ∀ e ∈ t, Counting e.call → e.call = .hit key g.policy)
    {start : Nat} (h : g.letThroughFrom clock start t = true) :
    ∃ e ∈ t, ∃ v, verdict? clock e = some v ∧ v.decision.admitted = true ∧ v.arrival.key = key ∧
      start ≤ v.arrival.time ∧ v.arrival.time < start + g.policy.window := by
  obtain ⟨time, hthrough, hwithin⟩ := (Option.any_eq_true _ _).mp h
  obtain ⟨_, _, answer, k, rest, rfl, hadmitted, rfl⟩ := letThrough?_eq_some hthrough
  obtain ⟨rfl, rfl⟩ := Call.hit.inj (hcounted _ List.mem_cons_self trivial)
  exact ⟨_, List.mem_cons_self, _, rfl, hadmitted, rfl, of_decide_eq_true hwithin⟩

section Turns
variable {requests : List Http.Request} {xs : List (Strand (fun _ : Http.Request => Reply) σ)}

lemma strand_hit_eq (hturns : Interleaved κ g.exchange requests s xs s') {x} (hx : x ∈ xs) {e : Program.Event σ}
    (he : e ∈ x.trace) (hcounting : Counting e.call) : e.call = .hit (windowKey x.task) g.policy := by
  obtain ⟨k, hreaches, -⟩ := hturns.reaches (fun _ _ => True) (fun _ => trivial) (fun _ _ => trivial)
    (fun _ => trivial) x hx
  exact hit_eq hreaches he hcounting

/-- However requests take turns, no peer has more of them let through in the length of a window than the limit. -/
lemma letThroughFrom_le (h : HoldsWindows κ windows clock) (hs : windows s = .empty)
    (hturns : Interleaved κ g.exchange requests s xs s') (peer : Option Address) (start : Nat) :
    xs.countP (fun x => decide (x.task.peer = peer) && g.letThroughFrom clock start x.trace) ≤ g.policy.limit.toNat := by
  obtain ⟨log, hlog, hlt, htraces⟩ := hturns.turns
  have hmem : ∀ {i x e}, xs[i]? = some x → (e ∈ x.trace ↔ (i, e) ∈ log) := by
    intro i x e hx
    rw [htraces i x hx, Interleaved.mem_entries]
  have hpolicy : ∀ e ∈ log.map (·.2), ∀ {key p}, e.call = .hit key p → p = g.policy := by
    intro e he key p hcall
    obtain ⟨⟨i, e⟩, hentry, rfl⟩ := List.mem_map.mp he
    have htrace := (hmem (List.getElem?_eq_getElem (hlt _ hentry))).mpr hentry
    have hown := strand_hit_eq hturns (List.getElem_mem _) htrace (by rw [hcall]; trivial)
    exact (Call.hit.inj (hcall.symm.trans hown)).2
  obtain ⟨-, hsound⟩ := h.tracks hs hlog hpolicy
  have hbound := g.policy.countP_admitted_le hsound (windowKey ⟨"", "", none, [], [], peer⟩) start
  rw [List.countP_filterMap] at hbound
  -- each request that is let through has a verdict of its own among those that the bound counts
  refine le_trans (countP_le_marks fun i x hx hcounts => ?_) hbound
  obtain ⟨hpeer, hfrom⟩ := Bool.and_eq_true_iff.mp hcounts
  obtain ⟨e, he, v, hv, hfound⟩ :=
    verdict_of_letThroughFrom (fun e => strand_hit_eq hturns (List.mem_of_getElem? hx)) hfrom
  have hkey : windowKey x.task = windowKey ⟨"", "", none, [], [], peer⟩ :=
    windowKey_eq_iff.mpr (of_decide_eq_true hpeer)
  rw [hkey] at hfound
  exact ⟨(i, e), (hmem hx).mp he, rfl, by simp [hv, hfound]⟩

end Turns

/-! ### All together -/

/-- How requests are accounted for. -/
structure Accounted (g : Service) : Prop where
  /-- However far the gateway goes with a request that is no preflight, the request is on its passage. -/
  passage : ∀ r : Http.Request, r.method ≠ "OPTIONS" → ∀ {σ : Type} (κ : Conduct σ) s t rest m,
    Reaches κ (g.exchange r) s t rest m → Passage κ g r s t rest m
  /-- An exempt request changes no window. -/
  unmoved : ∀ r : Http.Request, r.method ≠ "OPTIONS" → g.exemptPaths.contains r.path = true →
    ∀ {σ : Type} (κ : Conduct σ) windows clock, HoldsWindows κ windows clock → ∀ s t rest m,
    Reaches κ (g.exchange r) s t rest m → windows m = windows s
  /-- Requests are counted together if they come from one address, or both from none that is known. -/
  key : ∀ r r' : Http.Request, windowKey r = windowKey r' ↔ r.peer = r'.peer
  /-- No interval as long as the window has more requests of a peer let through than the limit. -/
  bounded : ∀ {σ : Type} (κ : Conduct σ) windows clock, HoldsWindows κ windows clock → ∀ s, windows s = .empty →
    ∀ requests (xs : List (Strand (fun _ : Http.Request => Reply) σ)) s', Interleaved κ g.exchange requests s xs s' →
    ∀ peer start, xs.countP (fun x => decide (x.task.peer = peer) && g.letThroughFrom clock start x.trace) ≤
      g.policy.limit.toNat

/-- Every request is accounted for, whoever asks for whatever. -/
theorem admission_accounted (g : Service) : Accounted g where
  passage _ hmethod _ _ _ _ _ _ h := passage hmethod h
  unmoved := by
    intro r hmethod hexempt σ κ windows clock hholds s t rest m h
    cases passage hmethod h with
    | exempt _ _ uncounted _ => exact hholds.unmoved h uncounted
    | waiting counted => rfl
    | admitted counted _ _ _ _ _ => exact nomatch counted.symm.trans hexempt
    | denied counted _ _ _ => exact nomatch counted.symm.trans hexempt
  key _ _ := windowKey_eq_iff
  bounded _ _ _ h _ hs _ _ _ hturns peer start := letThroughFrom_le h hs hturns peer start

/-- The conduct of the service's own collaborators, while time goes on between their calls. -/
def elapsing (outside : Collaborators.Outside σ) : Conduct (Collaborators × σ) :=
  amid (fun x x' => ∃ nanos, x' = (x.1.advance nanos, x.2)) (housed outside)

lemma elapsing_holdsWindows (outside : Collaborators.Outside σ) :
    HoldsWindows (elapsing outside) (·.1.windows) (·.1.now) where
  counted := by
    rintro key p x a x' ⟨_, ⟨nanos, rfl⟩, h⟩
    obtain ⟨rfl, rfl⟩ := Prod.mk.inj h
    exact ⟨rfl, rfl⟩
  kept := by
    rintro c x a x' ⟨_, ⟨nanos, rfl⟩, h⟩ hc
    obtain rfl : (Collaborators.handle outside c _).2 = x' := congrArg Prod.snd h
    cases c <;> first | rfl | exact absurd trivial hc
  onward := by
    rintro c x a x' ⟨_, ⟨nanos, rfl⟩, h⟩
    obtain rfl : (Collaborators.handle outside c _).2 = x' := congrArg Prod.snd h
    cases c <;> exact Nat.le_add_right _ _

/-- A request for a path that no route has. -/
def lostRequest : Http.Request := ⟨"GET", "/", none, [], [], some (.v4 0x7f000001)⟩

/-- A service with room for one request in a minute. -/
def narrowService : Service := { smallService with policy := ⟨1, 60000000000⟩ }

/-- What a client has been told: status, requests left and time to wait. -/
def toldStatus? (x : Strand (fun _ : Http.Request => Reply) σ) : Option (Nat × List String × List String) :=
  match x.rest with
  | .done reply => some (reply.head.status, reply.head.values "x-ratelimit-remaining", reply.head.values "retry-after")
  | _ => none

/-- The first of two requests is let through and finds no route; the second is denied. -/
theorem admission_accounted_twice : ∃ xs x', Interleaved (elapsing Rehearsal.outside) narrowService.exchange
      [lostRequest, lostRequest] beginning xs x' ∧
    xs.map (fun x => narrowService.letThrough? (·.1.now) x.trace) = [some 0, none] ∧
    xs.countP (fun x => decide (x.task.peer = lostRequest.peer) && narrowService.letThroughFrom (·.1.now) 0 x.trace) ≤ 1 ∧
    xs.map toldStatus? = [some (404, ["0"], []), some (429, ["0"], ["60"])] := by
  have helapsing : ∀ c x, elapsing Rehearsal.outside c x (Rehearsal.base c x).1 (Rehearsal.base c x).2 :=
    fun c x => ⟨x, ⟨0, rfl⟩, rfl⟩
  have hstart : Interleaved (elapsing Rehearsal.outside) narrowService.exchange [lostRequest, lostRequest] beginning
      _ _ := .start
  have hturns := hstart.takeTurns helapsing [0, 1]
  have hbounded := (admission_accounted narrowService).bounded _ _ _ (elapsing_holdsWindows _) _ rfl _ _ _ hturns
  exact ⟨_, _, hturns, by decide +kernel, hbounded lostRequest.peer 0, by decide +kernel⟩

end Service
end Gateway
end CompletionGateway
