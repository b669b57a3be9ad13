import CompletionGateway.Proofs.Admission.Containment

/-! A server that deletes keys and one that keeps them for ever. When the time of a key is over, every request that its
set holds has left the window, so that the next request finds as many marks in the window on either server. -/
namespace CompletionGateway.Admission

namespace Fleet
variable {f f' : Fleet} (limit : UInt32) {window : Nat} {log : List Recorded} {now : Int}

/-- The sets of all keys hold what a log says. -/
def Tracks (window : Nat) (log : List Recorded) (now : Int) (f : Fleet) : Prop :=
  ∀ key, SetTracks key window log now f.server

lemma start_tracks (buffers : Nat → Nat) (expires : Bool) (window : Nat) (now : Int) :
    (start buffers expires).Tracks window [] now := fun key => SetTracks.start key window now expires

lemma Tracks.record (h : f.Tracks window log now) (hkeeps : f.Keeps window) (hw : micros window < 2 ^ 63)
    {a : SharedArrival} (hnow : now ≤ a.time) (hclock : ClockTime a.time) :
    (f.record limit window a).2.Tracks window (log ++ [(f.record limit window a).1]) a.time := by
  intro key
  by_cases hkey : a.key = key
  · exact (tracks_record limit (h key) (fun _ => hkeeps) hw hkey hnow hclock).2
  · exact (tracks_record_other (h key) hkey).later hnow

/-- Of two servers that hold what one log says, each tells a request the same. -/
lemma record_agrees (hgateways : f'.gateways = f.gateways) (h : f.Tracks window log now) (h' : f'.Tracks window log now)
    (hkeeps : f.Keeps window) (hkeeps' : f'.Keeps window) (hw : micros window < 2 ^ 63) {a : SharedArrival}
    (hnow : now ≤ a.time) (hclock : ClockTime a.time) :
    (f'.record limit window a).1 = (f.record limit window a).1 ∧
      (f'.record limit window a).2.gateways = (f.record limit window a).2.gateways := by
  have houtcome := (tracks_record limit (h a.key) (fun _ => hkeeps) hw rfl hnow hclock).1
  have houtcome' := (tracks_record limit (h' a.key) (fun _ => hkeeps') hw rfl hnow hclock).1
  have hmark : (f'.record limit window a).1.mark = (f.record limit window a).1.mark := by
    simp only [record, Recorded.mark, hgateways]
  rw [hmark, ← houtcome] at houtcome'
  constructor
  · have hsequence : (f'.gateways a.gateway).sequence = (f.gateways a.gateway).sequence := by rw [hgateways]
    exact congrArg₂ (Recorded.mk a) hsequence houtcome'
  · simp only [record, SharedWindow.hit, hgateways]

/-- Two servers that hold what one log says answer all further requests alike. -/
theorem recordAll_agrees {as : List SharedArrival} (hgateways : f'.gateways = f.gateways)
    (h : f.Tracks window log now) (h' : f'.Tracks window log now) (hkeeps : f.Keeps window)
    (hkeeps' : f'.Keeps window) (hw : micros window < 2 ^ 63) (hclock : ∀ a ∈ as, ClockTime a.time)
    (hnow : ∀ a ∈ as, now ≤ a.time) (hordered : as.Pairwise (·.time ≤ ·.time)) :
    f'.recordAll limit window as = f.recordAll limit window as := by
  induction as generalizing f f' log now with
  | nil => rfl
  | cons a as ih =>
    obtain ⟨hle, hordered⟩ := List.pairwise_cons.mp hordered
    have hclocka := hclock a List.mem_cons_self
    have hnowa := hnow a List.mem_cons_self
    obtain ⟨hrecord, hgateways'⟩ := record_agrees limit hgateways h h' hkeeps hkeeps' hw hnowa hclocka
    have htracks := h.record limit hkeeps hw hnowa hclocka
    have htracks' := h'.record limit hkeeps' hw hnowa hclocka
    rw [hrecord] at htracks'
    rw [recordAll, recordAll, hrecord, ih hgateways' htracks htracks' (hkeeps.record a) (hkeeps'.record a)
      (fun b hb => hclock b (List.mem_cons_of_mem _ hb)) hle hordered]

end Fleet

/-- A window and a buffer of whole seconds. -/
lemma SharedWindow.expiry_whole (secs bufferSecs sequence : Nat) :
    (SharedWindow.mk (bufferSecs * 1000000000) sequence).expiry (secs * 1000000000) =
      wrap64 (max (secs + bufferSecs) 1) := by
  have hseconds : (((secs * 1000000000 : Nat) : Int) + ((bufferSecs * 1000000000 : Nat) : Int)) / 1000000000 =
      (secs + bufferSecs : Int) := by omega
  rw [expiry]
  dsimp only
  rw [hseconds]

/-- Words have room for them. -/
lemma SharedWindow.expiry_seconds {secs bufferSecs : Nat} (hsum : secs + bufferSecs < 2 ^ 63) (sequence : Nat) :
    (SharedWindow.mk (bufferSecs * 1000000000) sequence).expiry (secs * 1000000000) = max (secs + bufferSecs : Int) 1 := by
  rw [expiry_whole]
  exact wrap64_eq (by omega) (by omega)

/-- Keys that are deleted when window and buffer are over are deleted unnoticed. -/
theorem expiry_unnoticed (secs bufferSecs : Nat) (limit : UInt32) (as : List Arrival)
    (hmicros : secs * 1000000 < 2 ^ 63) (hsum : secs + bufferSecs < 2 ^ 63) (hclock : ∀ a ∈ as, a.time < 2 ^ 63)
    (hordered : as.Pairwise (·.time ≤ ·.time)) :
    (SharedWindow.mk (bufferSecs * 1000000000) 0).hitAll ⟨.empty, true⟩ limit (secs * 1000000000) as =
      (SharedWindow.mk (bufferSecs * 1000000000) 0).hitAll ⟨.empty, false⟩ limit (secs * 1000000000) as := by
  set f := Fleet.start fun _ => bufferSecs * 1000000000
  have hwindow : micros (secs * 1000000000) = secs * 1000000 := by
    unfold micros
    omega
  have hkeeps : (f true).Keeps (secs * 1000000000) := by
    rw [Fleet.start_keeps]
    intro _ _
    rw [hwindow, SharedWindow.expiry_seconds hsum]
    omega
  have hkeeps' : (f false).Keeps (secs * 1000000000) := Fleet.start_keeps.mpr fun h => absurd h Bool.false_ne_true
  have hclock' := Arrival.clockTime_toFirst hclock
  have hagrees : (f true).recordAll limit (secs * 1000000000) (as.map Arrival.toFirst) =
      (f false).recordAll limit (secs * 1000000000) (as.map Arrival.toFirst) :=
    Fleet.recordAll_agrees limit rfl (Fleet.start_tracks _ _ _ 0) (Fleet.start_tracks _ _ _ 0) hkeeps' hkeeps
      (hwindow.symm ▸ by omega) hclock' (fun a ha => (hclock' a ha).1)
      (Arrival.ordered_toFirst hordered)
  have houtcomes := fun expires => Fleet.outcomes_recordAll (f expires) limit (secs * 1000000000) as
  have htrue := houtcomes true
  rw [hagrees, houtcomes false] at htrue
  exact htrue.symm

/-- Requests to a window of one second, the third of one identity right at the end of the first one's window. -/
def atTheDeadline : List Arrival := [⟨"rl:a", 5⟩, ⟨"rl:b", 700000⟩, ⟨"rl:a", 1000005⟩, ⟨"rl:b", 1600000⟩, ⟨"rl:a", 1999999⟩]

/-- Without a buffer, a key is deleted at the very moment when its last request leaves the window. -/
theorem expiry_unnoticed_atTheDeadline :
    1 * 1000000 < 2 ^ 63 ∧ 1 + 0 < 2 ^ 63 ∧ (∀ a ∈ atTheDeadline, a.time < 2 ^ 63) ∧
    atTheDeadline.Pairwise (·.time ≤ ·.time) ∧
    (SharedWindow.mk (0 * 1000000000) 0).hitAll ⟨.empty, true⟩ 1 (1 * 1000000000) atTheDeadline =
      (SharedWindow.mk (0 * 1000000000) 0).hitAll ⟨.empty, false⟩ 1 (1 * 1000000000) atTheDeadline ∧
    (SharedWindow.mk 0 0).hitAll ⟨.empty, false⟩ 1 1000000000 atTheDeadline =
      [⟨true, 1⟩, ⟨true, 1⟩, ⟨true, 1⟩, ⟨false, 2⟩, ⟨false, 2⟩] ∧
    (∀ expires, (((SharedWindow.mk 0 0).hit ⟨.empty, expires⟩ 5 "rl:a" 1 1000000000).2.2.lookup 1000005 "rl:a").members =
      if expires then [] else [("5-0", 5)]) := by
  have hclock : ∀ a ∈ atTheDeadline, a.time < 2 ^ 63 := by decide
  have hordered : atTheDeadline.Pairwise (·.time ≤ ·.time) := by decide
  exact ⟨by decide, by decide, hclock, hordered,
    expiry_unnoticed 1 0 1 atTheDeadline (by decide) (by decide) hclock hordered, by decide, by decide⟩

end CompletionGateway.Admission
