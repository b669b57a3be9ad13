import CompletionGateway.Proofs.EventStream.Overlong

/-! A decoder that is called in any order, also after a push that failed. A push takes lines off the front of its buffer
one by one, and may give up at any of them, with lines behind it that nobody has looked at. Whichever way it ends, what
waits in the buffer is the front of a single line within the limit, and where a body is over nothing waits at all. -/
namespace CompletionGateway.EventStream.Decoder

/-! ### The loop of a push -/

/-- Fail, and drop the buffer with whatever is left in it. -/
def giveUp (d : Decoder) : Except ProviderError (List Line) × Decoder := (.error (oversized d.limit), ⟨[], d.limit⟩)

/-- Take lines off the front of the buffer. -/
def takeLines (d : Decoder) (out : List Line) : Except ProviderError (List Line) × Decoder :=
  match _h : d.buffer.dropWhile (!isNewline ·) with
  | [] => if d.limit < d.buffer.length then d.giveUp else (.ok out, d)
  | _ :: rest =>
    let line := d.buffer.takeWhile (!isNewline ·)
    if d.limit < line.length then d.giveUp
    else takeLines ⟨rest, d.limit⟩ (out ++ (parseLine line).toList)
termination_by d.buffer.length
decreasing_by
  have hdrop := (List.dropWhile_sublist (!isNewline ·) (l := d.buffer)).length_le
  rw [_h, List.length_cons] at hdrop
  omega

lemma takeLines_eq (d : Decoder) (out : List Line) :
    takeLines d out = match drain d.limit d.buffer out.reverse with
      | some (lines, rest) => (.ok lines, ⟨rest, d.limit⟩)
      | none => (.error (oversized d.limit), fresh d.limit) := by
  fun_induction takeLines d out with
  | case1 d out hdrop hlong =>
    rw [drain_of_nil hdrop, if_pos hlong]
    rfl
  | case2 d out hdrop hshort => rw [drain_of_nil hdrop, if_neg hshort, List.reverse_reverse]
  | case3 d out b rest hdrop line hlong =>
    rw [drain_of_cons hdrop, if_pos hlong]
    rfl
  | case4 d out b rest hdrop line hshort ih =>
    have hout : (out ++ (parseLine line).toList).reverse = (parseLine line).toList ++ out.reverse := by
      cases parseLine line <;> simp
    rw [drain_of_cons hdrop, if_neg hshort, ih, hout]

/-- A push is this loop on the buffer with the piece behind it. -/
lemma push_eq_takeLines (d : Decoder) (piece : List UInt8) :
    d.push piece = takeLines ⟨d.buffer ++ piece, d.limit⟩ [] :=
  (takeLines_eq ⟨d.buffer ++ piece, d.limit⟩ []).symm

/-- What waits in a decoder is the front of a single line within the limit. -/
structure Clean (limit : Nat) (d : Decoder) : Prop where
  limit_eq : d.limit = limit
  feedless : 10 ∉ d.buffer
  short : d.buffer.length ≤ limit

lemma clean_fresh (limit : Nat) : Clean limit (fresh limit) := ⟨rfl, List.not_mem_nil, Nat.zero_le _⟩

/-- There are two ways out of the loop. Neither tells where it was left, as the lines that were taken are dropped too if
it fails. -/
lemma takeLines_cases (d : Decoder) (out : List Line) :
    takeLines d out = (.error (oversized d.limit), fresh d.limit) ∨
      ∃ lines d', takeLines d out = (.ok lines, d') ∧ Clean d.limit d' := by
  fun_induction takeLines d out with
  | case1 d out hdrop hlong => exact .inl rfl
  | case2 d out hdrop hshort =>
    have hfeedless : 10 ∉ d.buffer := fun hmem => by
      have hnone := List.dropWhile_eq_nil_iff.mp hdrop 10 hmem
      exact absurd hnone (by decide)
    exact .inr ⟨out, d, rfl, rfl, hfeedless, Nat.le_of_not_lt hshort⟩
  | case3 d out b rest hdrop line hlong => exact .inl rfl
  | case4 d out b rest hdrop line hshort ih => exact ih

/-! ### Calls in any order -/

/-- A call of a decoder. -/
inductive Call where
  | push (piece : List UInt8)
  | finish

/-- What a call answers. -/
inductive Answer where
  | pushed (result : Except ProviderError (List Line))
  | finished (last : Option Line)

/-- The body that a call was for is over if the call fails or if it is the one for the end. -/
def Answer.isLast : Answer → Bool
  | .pushed result => !result.isOk
  | .finished _ => true

def call (d : Decoder) : Call → Answer × Decoder
  | .push piece => (.pushed (d.push piece).1, (d.push piece).2)
  | .finish => (.finished d.finish.1, d.finish.2)

/-- The answers to calls that follow each other, and the decoder that they leave. -/
def callAll (d : Decoder) : List Call → List Answer × Decoder
  | [] => ([], d)
  | c :: calls =>
    let first := d.call c
    let rest := first.2.callAll calls
    (first.1 :: rest.1, rest.2)

lemma callAll_append (d : Decoder) (xs ys : List Call) :
    d.callAll (xs ++ ys) =
      ((d.callAll xs).1 ++ ((d.callAll xs).2.callAll ys).1, ((d.callAll xs).2.callAll ys).2) := by
  induction xs generalizing d with
  | nil => rfl
  | cons c xs ih => rw [List.cons_append, callAll, ih, callAll, List.cons_append]

/-- A call leaves a clean decoder, and a fresh one if it is the last for its body. -/
lemma call_clean (d : Decoder) (c : Call) :
    Clean d.limit (d.call c).2 ∧ ((d.call c).1.isLast = true → (d.call c).2 = fresh d.limit) := by
  cases c with
  | finish => exact ⟨clean_fresh _, fun _ => rfl⟩
  | push piece =>
    simp only [call, push_eq_takeLines]
    rcases takeLines_cases ⟨d.buffer ++ piece, d.limit⟩ [] with hfails | ⟨lines, d', htakes, hclean⟩
    · rw [hfails]
      exact ⟨clean_fresh _, fun _ => rfl⟩
    · rw [htakes]
      exact ⟨hclean, nofun⟩

lemma callAll_clean (limit : Nat) (calls : List Call) : Clean limit ((fresh limit).callAll calls).2 := by
  induction calls using List.reverseRecOn with
  | nil => exact clean_fresh limit
  | append_singleton calls c ih =>
    have hclean := (call_clean ((fresh limit).callAll calls).2 c).1
    rw [ih.limit_eq] at hclean
    rw [callAll_append]
    exact hclean

/-- What calls do to a decoder that was fresh in front of them. -/
structure Reusable (limit : Nat) (calls : List Call) : Prop where
  clean : Clean limit ((fresh limit).callAll calls).2
  /-- If the last of them was the last for its body, the decoder answers all that follow, and ends up, as a fresh one
  does. -/
  anew : ∀ a, ((fresh limit).callAll calls).1.getLast? = some a → a.isLast = true → ∀ more,
    (fresh limit).callAll (calls ++ more) =
      (((fresh limit).callAll calls).1 ++ ((fresh limit).callAll more).1, ((fresh limit).callAll more).2)

theorem calls_reusable (limit : Nat) (calls : List Call) : Reusable limit calls := by
  refine ⟨callAll_clean limit calls, fun a ha hlast more => ?_⟩
  have hfresh : ((fresh limit).callAll calls).2 = fresh limit := by
    cases calls using List.reverseRecOn with
    | nil => rfl
    | append_singleton calls c =>
      have hlimit := (callAll_clean limit calls).limit_eq
      rw [callAll_append] at ha ⊢
      obtain rfl : (((fresh limit).callAll calls).2.call c).1 = a := by simpa [callAll] using ha
      exact ((call_clean _ c).2 hlast).trans (congrArg fresh hlimit)
  rw [callAll_append, hfresh]

/-! A push that gives up at the second of three lines, and then a push for the next body. -/

def overlongPiece : List UInt8 := Text.utf8 "data: a\n12345678\ndata: b\n"

def nextPiece : List UInt8 := Text.utf8 "data: c\nda"

theorem calls_reusable_midway : Reusable 7 [.push overlongPiece] ∧
    (fresh 7).callAll [.push overlongPiece, .push nextPiece] =
      ([.pushed (.error (oversized 7)), .pushed (.ok [.data "c"])], ⟨Text.utf8 "da", 7⟩) := by
  have hreusable := calls_reusable 7 [.push overlongPiece]
  have hfails : (fresh 7).push overlongPiece = (.error (oversized 7), fresh 7) := by decide +kernel
  have hnext : (fresh 7).push nextPiece = (.ok [.data "c"], ⟨Text.utf8 "da", 7⟩) := by decide +kernel
  have hover : (fresh 7).callAll [.push overlongPiece] = ([.pushed (.error (oversized 7))], fresh 7) := by
    simp only [callAll, call, hfails]
  have hafter : (fresh 7).callAll [.push nextPiece] = ([.pushed (.ok [.data "c"])], ⟨Text.utf8 "da", 7⟩) := by
    simp only [callAll, call, hnext]
  have hanew := hreusable.anew (.pushed (.error (oversized 7))) (by rw [hover]; rfl) rfl [.push nextPiece]
  rw [hover, hafter] at hanew
  exact ⟨hreusable, hanew⟩

end CompletionGateway.EventStream.Decoder
