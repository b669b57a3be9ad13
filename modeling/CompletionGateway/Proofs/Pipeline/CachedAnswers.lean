import CompletionGateway.Cache.KeyValue
import CompletionGateway.Proofs.Cache.ExpiringMap
import CompletionGateway.Proofs.Cache.Fingerprint
import CompletionGateway.Proofs.Json.Readings
import CompletionGateway.Proofs.Json.Records
import CompletionGateway.Proofs.Pipeline.Transcript

/-! Answers from the cache. In every history of a cache that begins empty, whatever backend, store and consumers do, an
answer from the cache is the latest that the backend gave to an inquiry alike, within its time to live; and as long as
there is room for all fingerprints, such an answer is found. -/
namespace CompletionGateway
open Program

/-- A cache in memory, and the time of its clock. -/
structure Clocked where
  cache : Cache.ExpiringMap
  now : Nat

/-- What can be told of the time since a request began: milliseconds in 64-bit seconds stay below 2 ^ 75. -/
def Elapsed (l : Numeric.Binary) : Prop := ∃ negative m e, l = .finite negative m e ∧ m < 2 ^ 53 ∧ e ≤ 22

/-- The cache is read and written at the time of the call, the clock does not go back, and whatever else is asked may be
answered in any way. -/
def clocked : Conduct Clocked
  | .readCache key, s, a, s' =>
    s.now ≤ s'.now ∧ (Cache.KeyValue.memory s.cache).get s'.now key = (a, .memory s'.cache)
  | .writeCache key value ttl, s, a, s' =>
    s.now ≤ s'.now ∧ (Cache.KeyValue.memory s.cache).set s'.now key value ttl = (a, .memory s'.cache)
  | .elapsed, s, l, s' => s.now ≤ s'.now ∧ s'.cache = s.cache ∧ Elapsed l
  | _, s, _, s' => s.now ≤ s'.now ∧ s'.cache = s.cache

/-- What a call puts into the cache. -/
def kept? : Event Clocked → Option (String × Cache.Entry)
  | ⟨.writeCache key value ttl, _, m⟩ => some (key, ⟨value, m.now + ttl⟩)
  | _ => none

/-- When a call puts something into the cache. -/
def keptAt? : Event Clocked → Option Nat
  | ⟨.writeCache _ _ _, _, m⟩ => some m.now
  | _ => none

/-- An answer of the backend to a request, and when the cache was told. -/
structure Given where
  principal : Principal
  request : PipelineRequest
  response : InferenceResponse
  time : Nat

/-- What is kept of an answer in the cache. -/
def Given.kept (o : Orchestrator) (x : Given) : String × Cache.Entry :=
  (o.cacheKey x.principal x.request, ⟨Text.utf8 x.response.toJson.text, x.time + o.cacheTtl⟩)

/-- The answer of a run that ended well without help of the cache. -/
def Entry.given? : Entry Clocked → Option Given
  | ⟨.complete p q, _, t, some (.ok r), _⟩ => if r.cached then none else (t.findSome? keptAt?).map (⟨p, q, r, ·⟩)
  | _ => none

/-- The answers that the backend gave, in the order of the runs. -/
def given (es : List (Entry Clocked)) : List Given := es.filterMap Entry.given?

/-- The inquiries of the requests for whole answers. -/
def inquiries {σ : Type} (o : Orchestrator) (es : List (Entry σ)) : List Cache.Inquiry :=
  es.filterMap fun e =>
    match e.op with
    | .complete p q => some (o.inquiry p q)
    | _ => none

namespace Clocked
variable {capacity : Nat} {log : List (String × Cache.Entry)} {s s' : Clocked}

/-- A cache of some capacity holds what a log says. -/
structure Follows (s : Clocked) (capacity : Nat) (log : List (String × Cache.Entry)) : Prop where
  capacity_eq : s.cache.capacity = capacity
  tracks : s.cache.Tracks log s.now

lemma now_le {c a} (h : clocked c s a s') : s.now ≤ s'.now := by
  cases c <;> exact h.1

/-- A read answers what is in the cache. -/
lemma read {key : String} {a} (h : clocked (.readCache key) s a s') :
    a = .ok (s.cache.get s'.now key).1 ∧ s'.cache = (s.cache.get s'.now key).2 := by
  obtain ⟨ha, hcache⟩ := Prod.ext_iff.mp h.2
  exact ⟨ha.symm, (Cache.KeyValue.memory.inj hcache).symm⟩

lemma written {key : String} {value : List UInt8} {ttl : Nat} {a} (h : clocked (.writeCache key value ttl) s a s') :
    s'.cache = s.cache.set s'.now key value ttl := by
  obtain ⟨-, hcache⟩ := Prod.ext_iff.mp h.2
  exact (Cache.KeyValue.memory.inj hcache).symm

/-- Calls that are not of the cache. -/
def Uncached : Call → Prop
  | .readCache _ => False
  | .writeCache _ _ _ => False
  | _ => True

lemma cache_eq {c a} (h : clocked c s a s') (hc : Uncached c) : s'.cache = s.cache := by
  cases c with
  | readCache key => exact hc.elim
  | writeCache key value ttl => exact hc.elim
  | elapsed => exact h.2.1
  | _ => exact h.2

/-- The cache goes on to hold what its log says, with what the call puts into it. -/
lemma Follows.step {c a} (hs : s.Follows capacity log) (h : clocked c s a s') :
    s'.Follows capacity (log ++ (kept? ⟨c, a, s'⟩).toList) := by
  obtain ⟨rfl, htracks⟩ := hs
  have hnow := now_le h
  cases c with
  | readCache key =>
    have hget := htracks.get hnow key
    rw [← (read h).2] at hget
    exact ⟨by rw [(read h).2, Cache.ExpiringMap.capacity_get], by simpa [kept?] using hget⟩
  | writeCache key value ttl =>
    have hset := htracks.set hnow key value ttl
    rw [← written h] at hset
    exact ⟨by rw [written h, Cache.ExpiringMap.capacity_set], hset⟩
  | _ =>
    have hlater := htracks.later hnow
    rw [← cache_eq h trivial] at hlater
    exact ⟨by rw [cache_eq h trivial], by simpa [kept?] using hlater⟩

theorem Follows.runs {α : Type} {p : Program α} {t r} (hs : s.Follows capacity log) (h : Runs clocked p s t r s') :
    s'.Follows capacity (log ++ t.filterMap kept?) := by
  induction h generalizing log with
  | done a s => simpa using hs
  | stuck s => simpa using hs
  | call answer tail ih =>
    have hrest := ih (hs.step answer)
    rw [List.append_assoc] at hrest
    rw [List.filterMap_cons]
    split <;> rename_i heq <;> simpa [heq] using hrest

/-- The calls of a run come after its beginning and before its end. -/
theorem between {α : Type} {p : Program α} {t r} (h : Runs clocked p s t r s') :
    s.now ≤ s'.now ∧ ∀ c ∈ t, s.now ≤ c.after.now ∧ c.after.now ≤ s'.now := by
  induction h with
  | done a s => exact ⟨le_refl _, by simp⟩
  | stuck s => exact ⟨le_refl _, by simp⟩
  | call answer tail ih =>
    have hnow := now_le answer
    refine ⟨hnow.trans ih.1, ?_⟩
    intro c hc
    rcases List.mem_cons.mp hc with rfl | hc
    · exact ⟨hnow, ih.1⟩
    · exact ⟨hnow.trans (ih.2 c hc).1, (ih.2 c hc).2⟩

end Clocked

/-! ### What is kept is read back -/

/-- An answer is found in what is kept of it, except for its latency. -/
lemma Given.found (o : Orchestrator) {x : Given} (hx : Elapsed x.response.latency) :
    ∃ l, Orchestrator.foundAnswer (.ok (some (x.kept o).2.value)) = some ⟨x.response.id, x.response.conversation,
      x.response.content, x.response.model, x.response.tokenCount, l, x.response.cached⟩ := by
  obtain ⟨negative, m, e, hlatency, hm, he⟩ := hx
  obtain ⟨l, hl⟩ := Json.real_written (s := negative) hm he
  rw [← hlatency] at hl
  refine ⟨l, ?_⟩
  rw [Orchestrator.foundAnswer, Given.kept, Json.decodeBytes_text, InferenceResponse.ofTree?_toJson x.response hl]

/-! ### What each kind of run puts into the cache -/

lemma kept?_eq_none {e : Event Clocked} (h : Clocked.Uncached e.call) : kept? e = none := by
  obtain ⟨c, a, m⟩ := e
  cases c <;> first | rfl | exact h.elim

lemma keptAt?_eq_none {e : Event Clocked} (h : Clocked.Uncached e.call) : keptAt? e = none := by
  obtain ⟨c, a, m⟩ := e
  cases c <;> first | rfl | exact h.elim

lemma Orchestrator.Preparing.uncached {c : Call} (h : Orchestrator.Preparing c) : Clocked.Uncached c := by
  cases c <;> trivial

namespace Orchestrator
variable {o : Orchestrator} {p : Principal} {q : PipelineRequest} {s s' : Clocked} {capacity : Nat}
  {log : List (String × Cache.Entry)}

lemma ReadyRun.keeps_none {t id ms} (h : ReadyRun clocked o p q s t id ms s') : t.filterMap kept? = [] :=
  filterMap_eq_nil (fun _ => kept?_eq_none) fun c hc => (h.preparing c hc).uncached

lemma RefusedRun.keeps_none {t e} (h : RefusedRun clocked o p q s t e s') : t.filterMap kept? = [] :=
  filterMap_eq_nil (fun _ => kept?_eq_none) fun c hc => (h.preparing c hc).uncached

lemma PersistRun.keeps_none {id : ConversationId} {prompt content model tokens latency t}
    (h : PersistRun clocked id prompt content model tokens latency s t s') : t.filterMap kept? = [] := by
  obtain ⟨drawn, clock, asked, drawn', clock', answered⟩ := h
  rfl

lemma relayed_keeps_none {id : ConversationId} {feed : Feed} {t r}
    (h : Runs clocked (relayFeed (fun f => perform (.offer f)) id feed) s t r s') : t.filterMap kept? = [] :=
  filterMap_eq_nil (fun _ => kept?_eq_none) (h.only (relayFeed_only (fun _ => .perform trivial) id feed))

/-- The cache follows the same log until it is asked. -/
lemma ReadyRun.follows {t id ms} (hs : s.Follows capacity log) (h : ReadyRun clocked o p q s t id ms s') :
    s'.Follows capacity log := by
  have hquiet := h.keeps_none
  obtain ⟨valid, resolved, read⟩ := h
  rw [List.filterMap_append, List.append_eq_nil_iff] at hquiet
  have hresolved := hs.runs resolved
  rw [hquiet.1, List.append_nil] at hresolved
  simpa [kept?] using hresolved.step read

/-- An answer of the backend is put into the cache, which is when it is given. -/
lemma CompleteRun.kept {t r} (h : CompleteRun clocked o p q s t (.ok r) s') (hr : r.cached = false) :
    ∃ c ∈ t, c.call = .writeCache (o.cacheKey p q) (Text.utf8 r.toJson.text) o.cacheTtl ∧
      Entry.given? ⟨.complete p q, s, t, some (.ok r), s'⟩ = some ⟨p, q, r, c.after.now⟩ ∧
      t.filterMap kept? = [Given.kept o ⟨p, q, r, c.after.now⟩] ∧ Elapsed r.latency := by
  cases h with
  | hit ready looked found timed => cases hr
  | @answered t id ms m a m₁ x m₂ u m₃ l m₄ w m₅ t' _ ready looked missed asked drawn timed kept persisted =>
    have hfirst : t.findSome? keptAt? = none :=
      List.findSome?_eq_none_iff.mpr fun c hc => keptAt?_eq_none (ready.preparing c hc).uncached
    refine ⟨⟨.writeCache (o.cacheKey p q) (Text.utf8 (responseOf u id x l).toJson.text) o.cacheTtl, w, m₅⟩, by simp,
      rfl, ?_, ?_, timed.2.2⟩
    · simp only [Entry.given?, List.findSome?_append, hfirst, Option.none_or]
      rfl
    · rw [List.filterMap_append, ready.keeps_none, List.nil_append]
      simp only [List.filterMap_cons, kept?, persisted.keeps_none]
      rfl

/-- A run for a whole answer puts into the cache what the backend gave, and nothing else. -/
lemma CompleteRun.keeps {t x} (h : CompleteRun clocked o p q s t x s') :
    t.filterMap kept? = ((Entry.given? ⟨.complete p q, s, t, some x, s'⟩).map (·.kept o)).toList := by
  cases h with
  | refused h =>
    rw [h.keeps_none]
    rfl
  | hit ready looked found timed =>
    rw [List.filterMap_append, ready.keeps_none]
    rfl
  | failed ready looked missed asked =>
    rw [List.filterMap_append, ready.keeps_none]
    rfl
  | answered ready looked missed asked drawn timed kept persisted =>
    obtain ⟨c, -, -, hgiven, hkept, -⟩ :=
      (CompleteRun.answered ready looked missed asked drawn timed kept persisted).kept rfl
    rw [hkept, hgiven]
    rfl

/-- An answer from the cache is given without a call of the backend or a message on record. -/
lemma CompleteRun.quiet {t r} (h : CompleteRun clocked o p q s t (.ok r) s') (hr : r.cached = true) :
    ∀ c ∈ t, asked? c = none ∧ ∀ m, c.call ≠ .appendMessage m := by
  cases h with
  | answered ready looked missed asked drawn timed kept persisted => cases hr
  | hit ready looked found timed =>
    intro c hc
    rcases List.mem_append.mp hc with hc | hc
    · have hpreparing := ready.preparing c hc
      exact ⟨asked?_eq_none hpreparing, fun m hm => by rw [hm] at hpreparing; exact hpreparing.elim⟩
    · simp only [List.mem_cons, List.not_mem_nil, or_false] at hc
      rcases hc with rfl | rfl <;> exact ⟨rfl, fun m hm => nomatch hm⟩

lemma CompleteRun.resolvedTo {t r} (h : CompleteRun clocked o p q s t (.ok r) s') :
    Entry.ResolvedTo clocked ⟨.complete p q, s, t, some (.ok r), s'⟩ r.conversation := by
  cases h with
  | hit ready looked found timed => exact ready.resolvedTo rfl rfl
  | answered ready looked missed asked drawn timed kept persisted => exact ready.resolvedTo rfl rfl

/-- A stream does not touch the cache. -/
lemma StreamRun.keeps_none {t x} (h : StreamRun clocked o (fun f => perform (.offer f)) p q s t x s') :
    t.filterMap kept? = [] := by
  cases h with
  | refused h => exact h.keeps_none
  | silent ready opened relayed =>
    rw [List.filterMap_append, List.filterMap_cons, ready.keeps_none, relayed_keeps_none relayed]
    rfl
  | failed ready opened relayed =>
    rw [List.filterMap_append, List.filterMap_cons, ready.keeps_none, relayed_keeps_none relayed]
    rfl
  | finished ready opened relayed persisted =>
    rw [List.filterMap_append, List.filterMap_cons, List.filterMap_append, ready.keeps_none, relayed_keeps_none relayed,
      persisted.keeps_none]
    rfl

end Orchestrator

lemma Entry.Ran.keeps {o : Orchestrator} {e : Entry Clocked} (h : e.Ran clocked o) :
    e.trace.filterMap kept? = (e.given?.map (·.kept o)).toList := by
  obtain ⟨op, s, t, r, s'⟩ := e
  cases op with
  | complete p q =>
    obtain ⟨x, rfl, hrun⟩ := Orchestrator.runs_complete h
    exact hrun.keeps
  | stream p q => exact (Orchestrator.runs_stream h).keeps_none
  | listMessages p id =>
    obtain ⟨x, -, hrun⟩ := Orchestrator.runs_listMessages.mp h
    replace hrun : Orchestrator.ListRun clocked p id s t x s' := hrun
    cases hrun <;> rfl
  | listConversations p =>
    obtain ⟨x, -, -, ht⟩ := Orchestrator.runs_listConversations.mp h
    replace ht : t = _ := ht
    rw [ht]
    rfl

/-- A run that gives an answer of the backend is one for a whole answer, and gives it while it runs. -/
lemma Entry.Ran.gives {o : Orchestrator} {e : Entry Clocked} (h : e.Ran clocked o) {x : Given}
    (hx : e.given? = some x) : e.op = .complete x.principal x.request ∧ e.before.now ≤ x.time ∧
      x.time ≤ e.after.now ∧ Elapsed x.response.latency := by
  obtain ⟨op, s, t, r, s'⟩ := e
  cases op with
  | complete p q =>
    obtain ⟨y, rfl, hrun⟩ := Orchestrator.runs_complete h
    replace hrun : Orchestrator.CompleteRun clocked o p q s t y s' := hrun
    cases y with
    | error e => cases hx
    | ok r =>
      cases hr : r.cached with
      | true => simp [given?, hr] at hx
      | false =>
        obtain ⟨c, hc, -, hgiven, -, helapsed⟩ := hrun.kept hr
        obtain rfl := Option.some.inj (hgiven.symm.trans hx)
        obtain ⟨hbefore, hafter⟩ := (Clocked.between h).2 c hc
        exact ⟨rfl, hbefore, hafter, helapsed⟩
  | stream p q => cases hx
  | listMessages p id => cases hx
  | listConversations p => cases hx

/-! ### Whole histories -/

/-- The cache accounts for the answers of the backend, and they came one after the other. -/
structure Accounted (o : Orchestrator) (capacity : Nat) (es : List (Entry Clocked)) (s : Clocked) : Prop where
  follows : s.Follows capacity ((given es).map (·.kept o))
  past : ∀ x ∈ given es, x.time ≤ s.now
  ordered : (given es).Pairwise fun x y => x.time ≤ y.time
  elapsed : ∀ x ∈ given es, Elapsed x.response.latency
  asked : ∀ x ∈ given es, o.inquiry x.principal x.request ∈ inquiries o es

lemma given_snoc (es : List (Entry Clocked)) (e : Entry Clocked) : given (es ++ [e]) = given es ++ e.given?.toList := by
  rw [given, given, List.filterMap_append]
  cases h : e.given? <;> simp [h]

lemma History.accounted {o : Orchestrator} {capacity now : Nat} {es : List (Entry Clocked)} {s : Clocked}
    (h : History clocked o ⟨.empty capacity, now⟩ es s) : Accounted o (max capacity 1) es s := by
  induction h with
  | nil =>
    have hnone : ∀ x, x ∉ given [] := fun x hx => nomatch hx
    exact ⟨⟨rfl, Cache.ExpiringMap.tracks_empty capacity now⟩, fun x hx => absurd hx (hnone x), .nil,
      fun x hx => absurd hx (hnone x), fun x hx => absurd hx (hnone x)⟩
  | @snoc es e earlier ran ih =>
    obtain ⟨follows, past, ordered, elapsed, asked⟩ := ih
    have hfollows := follows.runs ran
    rw [ran.keeps] at hfollows
    have hnow := (Clocked.between ran).1
    have hgives : ∀ x ∈ e.given?.toList, e.op = .complete x.principal x.request ∧ e.before.now ≤ x.time ∧
        x.time ≤ e.after.now ∧ Elapsed x.response.latency := fun x hx => ran.gives (Option.mem_toList.mp hx)
    have hinquiries : inquiries o (es ++ [e]) = inquiries o es ++ inquiries o [e] := List.filterMap_append
    constructor
    · rw [given_snoc, List.map_append]
      cases hgiven : e.given? <;> simpa [hgiven] using hfollows
    · rw [given_snoc]
      intro x hx
      rcases List.mem_append.mp hx with hx | hx
      · exact (past x hx).trans hnow
      · exact (hgives x hx).2.2.1
    · rw [given_snoc, List.pairwise_append]
      refine ⟨ordered, ?_, fun x hx y hy => (past x hx).trans (hgives y hy).2.1⟩
      cases e.given? <;> simp
    · rw [given_snoc]
      intro x hx
      rcases List.mem_append.mp hx with hx | hx
      · exact elapsed x hx
      · exact (hgives x hx).2.2.2
    · rw [given_snoc, hinquiries]
      intro x hx
      rcases List.mem_append.mp hx with hx | hx
      · exact List.mem_append_left _ (asked x hx)
      · refine List.mem_append_right _ ?_
        simp [inquiries, (hgives x hx).1]

/-- A request asks the same as the ones before it that were kept under its key, if the lengths of what is hashed can be
told and no digest belongs to two preimages. -/
lemma Accounted.key_eq_iff {o : Orchestrator} {capacity : Nat} {pre post : List (Entry Clocked)} {e : Entry Clocked}
    {s : Clocked} (h : Accounted o capacity pre s) {p : Principal} {q : PipelineRequest} (he : e.op = .complete p q)
    (hfits : ∀ i ∈ inquiries o (pre ++ e :: post), ∀ f ∈ i.fields, Cache.Fits f)
    (hdigests : ∀ i ∈ inquiries o (pre ++ e :: post), ∀ i' ∈ inquiries o (pre ++ e :: post),
      Digest.sha256 i.preimage = Digest.sha256 i'.preimage → i.preimage = i'.preimage)
    {x : Given} (hx : x ∈ given pre) :
    o.cacheKey x.principal x.request = o.cacheKey p q ↔
      Cache.Alike (o.inquiry x.principal x.request) (o.inquiry p q) := by
  have hsplit : inquiries o (pre ++ e :: post) = inquiries o pre ++ o.inquiry p q :: inquiries o post := by
    simp [inquiries, he]
  have hearlier : o.inquiry x.principal x.request ∈ inquiries o (pre ++ e :: post) := by
    rw [hsplit]
    exact List.mem_append_left _ (h.asked x hx)
  have hnow : o.inquiry p q ∈ inquiries o (pre ++ e :: post) := by
    rw [hsplit]
    exact List.mem_append_right _ List.mem_cons_self
  exact Cache.Inquiry.key_eq_iff (hfits _ hearlier) (hfits _ hnow) (hdigests _ hearlier _ hnow)

end CompletionGateway
