import CompletionGateway.Proofs.EventStream.Overlong

/-! A body that is pushed to a decoder piece by piece. However it is cut, each push answers with what the lines carry that
it completes, until one delivers the first byte too many of the first line that is too long. The proof reads the lines off
the front of the body that has arrived: it is within the limit just as long as that byte is not part of it. -/
namespace CompletionGateway.EventStream

/-- A body consists of these lines, each with its line feed, and of a rest without one. -/
structure Splits (body : List UInt8) (lines : List (List UInt8)) (rest : List UInt8) : Prop where
  body_eq : body = lines.flatMap (· ++ [10]) ++ rest
  lines_feedless : ∀ l ∈ lines, 10 ∉ l
  rest_feedless : 10 ∉ rest

/-! ### Fronts of a body -/

lemma Splits.rawLines {body rest : List UInt8} {lines : List (List UInt8)} (h : Splits body lines rest) :
    rawLines body = lines ++ [rest] := by
  rw [h.body_eq, rawLines_terminated h.lines_feedless, rawLines_of_not_mem h.rest_feedless]

lemma exists_splits (body : List UInt8) : ∃ lines rest, Splits body lines rest := by
  obtain ⟨lines, rest, hlines⟩ := exists_rawLines body
  have hfeedless : ∀ l ∈ lines ++ [rest], 10 ∉ l := fun l hl => not_mem_of_mem_rawLines (hlines ▸ hl)
  obtain ⟨rest', hbody, hrest⟩ := exists_of_rawLines_append hlines (by simp)
  have hrest' : 10 ∉ rest := hfeedless rest (by simp)
  obtain rfl : rest' = rest := by
    rw [Decoder.rawLines_dropWhile] at hrest
    split at hrest
    · exact List.singleton_inj.mp hrest
    · exact absurd (List.cons.inj hrest).2 (rawLines_ne_nil _)
  exact ⟨lines, rest', hbody, fun l hl => hfeedless l (List.mem_append_left _ hl), hrest'⟩

lemma length_rawLines (body : List UInt8) : (rawLines body).length = body.count 10 + 1 := by
  induction body with
  | nil => rfl
  | cons b body ih =>
    rw [rawLines_cons]
    by_cases hb : b = 10
    · rw [if_pos hb, List.length_cons, ih, hb, List.count_cons_self]
    · rw [if_neg hb, List.length_modifyHead, ih, List.count_cons_of_ne hb]

/-- The front of a body has completed as many lines as there are line feeds in it. -/
lemma Splits.completed {body rest xs : List UInt8} {lines : List (List UInt8)} (h : Splits body lines rest)
    (hxs : xs <+: body) : completed xs = (lines.take (xs.count 10)).filterMap parseLine := by
  obtain ⟨ys, rfl⟩ := hxs
  obtain ⟨init, last, hinit⟩ := exists_rawLines xs
  obtain ⟨more, final, hmore⟩ := exists_rawLines (last ++ ys)
  have hcount : xs.count 10 = init.length := by
    have hlength := length_rawLines xs
    rw [hinit, List.length_append, List.length_singleton] at hlength
    omega
  have hall := h.rawLines
  rw [rawLines_append hinit, hmore, ← List.append_assoc] at hall
  obtain ⟨rfl, -⟩ := List.append_inj' hall rfl
  rw [completed_eq hinit, hcount, List.take_left]

/-- The front of a body is within the limit up to the first byte too many of the first line that is too long. -/
lemma within_front_iff {limit : Nat} {body line xs : List UInt8} {init more : List (List UInt8)}
    (hlines : rawLines body = init ++ line :: more) (hinit : ∀ l ∈ init, l.length ≤ limit) (hlong : limit < line.length)
    (hxs : xs <+: body) : Within limit xs ↔ xs.length ≤ (init.flatMap (· ++ [10])).length + limit := by
  have hfeedless : ∀ l ∈ init ++ line :: more, 10 ∉ l := fun l hl => not_mem_of_mem_rawLines (hlines ▸ hl)
  have hfront : ∀ n, rawLines (init.flatMap (· ++ [10]) ++ line.take n) = init ++ [line.take n] := by
    intro n
    rw [rawLines_terminated fun l hl => hfeedless l (List.mem_append_left _ hl)]
    exact congrArg (init ++ ·) (rawLines_of_not_mem fun hmem => hfeedless line (by simp) (List.mem_of_mem_take hmem))
  have hbody : ∀ n, init.flatMap (· ++ [10]) ++ line.take n <+: body := by
    intro n
    obtain ⟨tail, rfl, htail⟩ := exists_of_rawLines_append hlines (by simp)
    have hline : line <+: tail := by
      rw [Decoder.rawLines_dropWhile] at htail
      split at htail
      · exact (List.cons.inj htail).1 ▸ List.prefix_rfl
      · exact (List.cons.inj htail).1 ▸ List.takeWhile_prefix _
    exact (List.prefix_append_right_inj _).mpr ((List.take_prefix n line).trans hline)
  constructor
  · -- a front that has the byte has a line of `limit + 1` bytes
    intro hwithin
    by_contra hmore
    obtain ⟨ys, hys⟩ : init.flatMap (· ++ [10]) ++ line.take (limit + 1) <+: xs := by
      refine List.prefix_of_prefix_length_le (hbody _) hxs ?_
      rw [List.length_append, List.length_take]
      omega
    have hfirst := (hys ▸ hwithin).of_append (line.take (limit + 1)) (by simp [hfront])
    rw [List.length_take] at hfirst
    omega
  · -- one that does not have it is a front of lines that are short
    intro hlength
    obtain ⟨ys, hys⟩ : xs <+: init.flatMap (· ++ [10]) ++ line.take limit := by
      refine List.prefix_of_prefix_length_le hxs (hbody _) ?_
      rw [List.length_append, List.length_take]
      omega
    have hshort : Within limit (init.flatMap (· ++ [10]) ++ line.take limit) := by
      intro l hl
      rw [hfront] at hl
      rcases List.mem_append.mp hl with hl | hl
      · exact hinit l hl
      · rw [List.mem_singleton.mp hl, List.length_take]
        exact Nat.min_le_left _ _
    exact (hys ▸ hshort).of_append

namespace Decoder

/-! ### Pushing on -/

/-- The answers to pushes that follow each other, and the decoder that they leave. -/
def pushAll (d : Decoder) : List (List UInt8) → List (Except ProviderError (List Line)) × Decoder
  | [] => ([], d)
  | piece :: pieces =>
    let first := d.push piece
    let rest := first.2.pushAll pieces
    (first.1 :: rest.1, rest.2)

lemma pushAll_append (d : Decoder) (xs ys : List (List UInt8)) :
    (d.pushAll (xs ++ ys)).1 = (d.pushAll xs).1 ++ ((d.pushAll xs).2.pushAll ys).1 := by
  induction xs generalizing d with
  | nil => rfl
  | cons piece xs ih => exact congrArg ((d.push piece).1 :: ·) (ih (d.push piece).2)

/-- As long as no line is too long, pushes answer with what the lines carry that they complete, and the rest waits. -/
lemma pushAll_within {d : Decoder} {pieces : List (List UInt8)} (hbuffer : 10 ∉ d.buffer)
    (h : Within d.limit (d.buffer ++ pieces.flatten)) :
    ∃ (outs : List (List Line)) (init : List (List UInt8)) (last : List UInt8),
      rawLines (d.buffer ++ pieces.flatten) = init ++ [last] ∧
      d.pushAll pieces = (outs.map .ok, ⟨last, d.limit⟩) ∧ outs.length = pieces.length ∧
      ∀ n, (outs.take n).flatten = completed (d.buffer ++ (pieces.take n).flatten) := by
  induction pieces generalizing d with
  | nil =>
    refine ⟨[], [], d.buffer, ?_, rfl, rfl, fun n => ?_⟩
    · rw [List.flatten_nil, List.append_nil, rawLines_of_not_mem hbuffer]
      rfl
    · rw [List.take_nil, List.take_nil, List.flatten_nil, List.flatten_nil, List.append_nil, completed_of_not_mem hbuffer]
  | cons piece pieces ih =>
    rw [List.flatten_cons, ← List.append_assoc] at h ⊢
    obtain ⟨init, last, hlines, hlast, hpush⟩ := push_ok h.of_append
    obtain ⟨outs, init', last', hlines', hrest, hlength, houts⟩ :=
      ih (d := ⟨last, d.limit⟩) hlast ((within_append_iff hlines h.of_append _).mp h)
    refine ⟨init.filterMap parseLine :: outs, init ++ init', last', ?_, ?_, ?_, fun n => ?_⟩
    · rw [rawLines_append hlines, hlines', List.append_assoc]
    · rw [pushAll, hpush, hrest]
      rfl
    · rw [List.length_cons, List.length_cons, hlength]
    · cases n with
      | zero => rw [List.take_zero, List.take_zero, List.flatten_nil, List.flatten_nil, List.append_nil,
          completed_of_not_mem hbuffer]
      | succ n =>
        rw [List.take_succ_cons, List.take_succ_cons, List.flatten_cons, List.flatten_cons, ← List.append_assoc,
          completed_append hlines, houts n]

/-! ### Whole bodies -/

/-- Pushes have told, one by one, what the lines of a body carry that were completed by then. -/
structure Tells (lines pieces : List (List UInt8)) (outs : List (List Line)) : Prop where
  length : outs.length = pieces.length
  completed : ∀ n, (outs.take n).flatten = (lines.take ((pieces.take n).flatten.count 10)).filterMap parseLine

/-- What a decoder makes of a body that arrives in pieces. -/
structure Decodes (limit : Nat) (pieces lines : List (List UInt8)) (rest : List UInt8) : Prop where
  /-- No push fails just if neither a line nor the rest is too long. -/
  accepted : (∀ a ∈ ((fresh limit).pushAll pieces).1, a.isOk = true) ↔ ∀ l ∈ lines ++ [rest], l.length ≤ limit
  whole : (∀ l ∈ lines ++ [rest], l.length ≤ limit) → ∃ outs, ((fresh limit).pushAll pieces).1 = outs.map .ok ∧
    Tells lines pieces outs ∧ outs.flatten = lines.filterMap parseLine ∧
    ((fresh limit).pushAll pieces).2.finish.1 = parseLine rest
  /-- Otherwise the first push that fails delivers the first byte too many of the first line that is too long. -/
  broken : ∀ init line more, lines ++ [rest] = init ++ line :: more → (∀ l ∈ init, l.length ≤ limit) →
    limit < line.length → ∃ before piece after outs answers, pieces = before ++ piece :: after ∧
      ((fresh limit).pushAll pieces).1 = outs.map .ok ++ .error (oversized limit) :: answers ∧ Tells lines before outs ∧
      before.flatten.length ≤ (init.flatMap (· ++ [10])).length + limit ∧
      (init.flatMap (· ++ [10])).length + limit < (before ++ [piece]).flatten.length

variable {limit : Nat} {pieces lines : List (List UInt8)} {rest : List UInt8}

/-- What pushes have answered before a line is too long. -/
lemma exists_tells {before after : List (List UInt8)} (h : Splits (before ++ after).flatten lines rest)
    (hbefore : Within limit before.flatten) :
    ∃ outs init last, rawLines before.flatten = init ++ [last] ∧
      (fresh limit).pushAll before = (outs.map .ok, ⟨last, limit⟩) ∧ Tells lines before outs := by
  obtain ⟨outs, init, last, hinit, hpush, hlength, houts⟩ :=
    @pushAll_within (fresh limit) before List.not_mem_nil hbefore
  refine ⟨outs, init, last, hinit, hpush, hlength, fun n => (houts n).trans (h.completed ?_)⟩
  have hn : (before.take n).flatten <+: before.flatten :=
    ⟨(before.drop n).flatten, by rw [← List.flatten_append, List.take_append_drop]⟩
  rw [List.flatten_append]
  exact hn.trans (List.prefix_append _ _)

/-- Lines within the limit, and a rest within it, are decoded as a whole. -/
lemma exists_whole (h : Splits pieces.flatten lines rest) (hwithin : Within limit pieces.flatten) :
    ∃ outs, ((fresh limit).pushAll pieces).1 = outs.map .ok ∧ Tells lines pieces outs ∧
      outs.flatten = lines.filterMap parseLine ∧ ((fresh limit).pushAll pieces).2.finish.1 = parseLine rest := by
  have hsplits : Splits (pieces ++ []).flatten lines rest := by rwa [List.append_nil]
  obtain ⟨outs, init, last, hinit, hpush, htells⟩ := exists_tells hsplits hwithin
  obtain ⟨rfl, hlast⟩ := List.append_inj' (h.rawLines.symm.trans hinit) rfl
  obtain rfl := List.singleton_inj.mp hlast
  refine ⟨outs, congrArg Prod.fst hpush, htells, ?_, by rw [hpush]; rfl⟩
  have hfeeds : pieces.flatten.count 10 = lines.length := by
    have hlength := length_rawLines pieces.flatten
    rw [h.rawLines, List.length_append, List.length_singleton] at hlength
    omega
  have hall := htells.completed pieces.length
  rwa [List.take_length, List.take_of_length_le htells.length.le, hfeeds, List.take_length] at hall

/-- Otherwise the push that delivers the piece with which a line gets too long is the first to fail. -/
lemma exists_broken (h : Splits pieces.flatten lines rest) (hlong : ¬ Within limit pieces.flatten) :
    ∃ before piece after outs answers, pieces = before ++ piece :: after ∧
      ((fresh limit).pushAll pieces).1 = outs.map .ok ++ .error (oversized limit) :: answers ∧ Tells lines before outs ∧
      Within limit before.flatten ∧ ¬ Within limit (before ++ [piece]).flatten := by
  obtain ⟨before, piece, after, rfl, hbefore, hpiece⟩ := exists_overlong_piece hlong
  obtain ⟨outs, init, last, hinit, hpush, htells⟩ := exists_tells h hbefore
  have hoverlong : ¬ Within limit (last ++ piece) := by rwa [within_append_iff hinit hbefore] at hpiece
  refine ⟨before, piece, after, outs, ((fresh limit).pushAll after).1, rfl, ?_, htells, hbefore, by simpa using hpiece⟩
  rw [pushAll_append, hpush, pushAll, push_overlong (d := ⟨last, limit⟩) hoverlong]

/-- Every body splits into lines and a rest. In whatever pieces it arrives, a decoder makes of it what these carry, up to
the first that is too long. -/
theorem pushes_decode (limit : Nat) (pieces : List (List UInt8)) :
    (∃ lines rest, Splits pieces.flatten lines rest) ∧
      ∀ lines rest, Splits pieces.flatten lines rest → Decodes limit pieces lines rest := by
  refine ⟨exists_splits _, fun lines rest h => ?_⟩
  have hwithin : Within limit pieces.flatten ↔ ∀ l ∈ lines ++ [rest], l.length ≤ limit := by rw [Within, h.rawLines]
  refine ⟨⟨fun hok => ?_, fun hshort => ?_⟩, fun hshort => exists_whole h (hwithin.mpr hshort), ?_⟩
  · rw [← hwithin]
    by_contra hlong
    obtain ⟨before, piece, after, outs, answers, -, hanswers, -⟩ := exists_broken h hlong
    cases hok (.error (oversized limit)) (by rw [hanswers]; simp)
  · obtain ⟨outs, hanswers, -⟩ := exists_whole h (hwithin.mpr hshort)
    rw [hanswers]
    intro a ha
    obtain ⟨out, -, rfl⟩ := List.mem_map.mp ha
    rfl
  · intro init line more hlines hinit hline
    have hfront : ∀ {xs}, xs <+: pieces.flatten → (Within limit xs ↔ xs.length ≤
        (init.flatMap (· ++ [10])).length + limit) := within_front_iff (h.rawLines.trans hlines) hinit hline
    have hlong : ¬ Within limit pieces.flatten := fun hshort =>
      absurd (hwithin.mp hshort line (by rw [hlines]; simp)) (Nat.not_le.mpr hline)
    obtain ⟨before, piece, after, outs, answers, rfl, hanswers, htells, hbefore, hpiece⟩ := exists_broken h hlong
    refine ⟨before, piece, after, outs, answers, rfl, hanswers, htells, (hfront (by simp)).mp hbefore, ?_⟩
    exact Nat.not_le.mp fun hle => hpiece ((hfront ⟨after.flatten, by simp⟩).mpr hle)

/-! A line of exactly the limit, cut off in front of its line feed, and one that is too long by its last byte. -/

def edgePieces : List (List UInt8) := ["data: a", "\n", "data:bc", "d", "\n"].map Text.utf8

def edgeLines : List (List UInt8) := ["data: a", "data:bcd"].map Text.utf8

theorem pushes_decode_edge : Splits edgePieces.flatten edgeLines [] ∧ Decodes 7 edgePieces edgeLines [] ∧
    ∃ a ∈ ((fresh 7).pushAll edgePieces).1, a.isOk = false := by
  have hsplits : Splits edgePieces.flatten edgeLines [] := ⟨by decide, by decide, by decide⟩
  have hdecodes := (pushes_decode 7 edgePieces).2 edgeLines [] hsplits
  refine ⟨hsplits, hdecodes, ?_⟩
  by_contra hnone
  have hshort := hdecodes.accepted.mp fun a ha => Bool.of_not_eq_false fun hfails => hnone ⟨a, ha, hfails⟩
  exact absurd hshort (by decide)

end Decoder
end CompletionGateway.EventStream
