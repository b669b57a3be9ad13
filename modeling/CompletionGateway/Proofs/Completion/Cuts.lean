import CompletionGateway.Proofs.Completion.Feeds
import CompletionGateway.Proofs.EventStream.Bodies
import CompletionGateway.Proofs.EventStream.Overlong

/-! What the cuts of a streamed body do to the feed that a client makes of it. A body without a line that is too long is
the same feed in whatever pieces it arrives. With such a line the feed breaks off, and what is heard of the lines in front
is what the pieces before the break have completed. So the feed shows the cuts unless there is neither a chunk nor an end
mark in front of the line. -/
namespace CompletionGateway.Client
open EventStream

/-- The feed of lines behind which it ends in some way, unless the end mark is among them. -/
def feedOfLines (ending : FeedEnd) (ls : List Line) : Feed :=
  ⟨(chunksOfLines ls).1, if (chunksOfLines ls).2 then .finished else ending⟩

/-- The failure of a feed with a line that is too long. -/
def overlong : FeedEnd := .failed (Decoder.oversized Decoder.defaultLimit)

lemma feedOfLines_append (ending : FeedEnd) (ls ls' : List Line) : feedOfLines ending (ls ++ ls') =
    if (chunksOfLines ls).2 then ⟨(chunksOfLines ls).1, .finished⟩
    else prependChunks (chunksOfLines ls).1 (feedOfLines ending ls') := by
  induction ls with
  | nil => rfl
  | cons l ls ih =>
    cases l with
    | done => rfl
    | data s =>
      have hdata : ∀ ls, feedOfLines ending (.data s :: ls) =
          prependChunks (chunkOfPayload? s).toList (feedOfLines ending ls) := fun _ => rfl
      rw [List.cons_append, hdata, ih, chunksOfLines_data]
      by_cases hdone : (chunksOfLines ls).2 = true
      · rw [if_pos hdone, if_pos hdone]
        rfl
      · rw [if_neg hdone, if_neg hdone, prependChunks, prependChunks, prependChunks, List.append_assoc]

/-- Lines that carry nothing have no fronts that do. -/
lemma chunksOfLines_of_prefix {ls ls' : List Line} (h : ls <+: ls') (hnothing : chunksOfLines ls' = ([], false)) :
    chunksOfLines ls = ([], false) := by
  obtain ⟨more, rfl⟩ := h
  induction ls with
  | nil => rfl
  | cons l ls ih =>
    cases l with
    | done => cases hnothing
    | data s =>
      rw [List.cons_append, chunksOfLines_data] at hnothing
      obtain ⟨hchunks, hdone⟩ := Prod.mk.inj hnothing
      obtain ⟨hfirst, hrest⟩ := List.append_eq_nil_iff.mp hchunks
      rw [chunksOfLines_data, hfirst, ih (Prod.ext hrest hdone)]
      rfl

/-- A client has heard the lines that were complete before the piece with which the decoder gives up. -/
lemma readFeed_overlong {d : Decoder} {ending : BodyEnd} {before after : List (List UInt8)} {piece : List UInt8}
    (hbuffer : 10 ∉ d.buffer) (hbefore : Within d.limit (d.buffer ++ before.flatten))
    (hpiece : ¬ Within d.limit (d.buffer ++ (before.flatten ++ piece))) :
    readFeed d ending (before ++ piece :: after) =
      feedOfLines (.failed (Decoder.oversized d.limit)) (completed (d.buffer ++ before.flatten)) := by
  induction before generalizing d with
  | nil =>
    rw [List.flatten_nil, List.nil_append] at hpiece
    rw [List.nil_append, readFeed, Decoder.push_overlong hpiece, List.flatten_nil, List.append_nil,
      completed_of_not_mem hbuffer]
    rfl
  | cons first before ih =>
    rw [List.flatten_cons, ← List.append_assoc] at hbefore
    rw [List.flatten_cons, List.append_assoc, ← List.append_assoc] at hpiece
    obtain ⟨init, last, hlines, hlast, hpush⟩ := Decoder.push_ok hbefore.of_append
    have hfront : Within d.limit (last ++ before.flatten) := (within_append_iff hlines hbefore.of_append _).mp hbefore
    have hmore : ¬ Within d.limit (last ++ (before.flatten ++ piece)) := by
      rwa [within_append_iff hlines hbefore.of_append] at hpiece
    rw [List.cons_append, readFeed, hpush, List.flatten_cons, ← List.append_assoc, completed_append hlines,
      feedOfLines_append]
    dsimp only
    rw [ih hlast hfront hmore]

variable {c : Client} {status : Nat}

lemma feed_overlong (hstatus : isSuccess status = true) (before : List (List UInt8)) (piece : List UInt8)
    (after : List (List UInt8)) (hbefore : Within Decoder.defaultLimit before.flatten)
    (hpiece : ¬ Within Decoder.defaultLimit (before.flatten ++ piece)) :
    c.feed (.answered status (before ++ piece :: after) .complete) =
      feedOfLines overlong (completed before.flatten) := by
  have hfeed : c.feed (.answered status (before ++ piece :: after) .complete) =
      readFeed (.fresh Decoder.defaultLimit) .complete (before ++ piece :: after) := if_pos hstatus
  rw [hfeed]
  exact readFeed_overlong (d := .fresh Decoder.defaultLimit) List.not_mem_nil hbefore hpiece

lemma feed_within (hstatus : isSuccess status = true) {pieces : List (List UInt8)}
    (h : Within Decoder.defaultLimit pieces.flatten) :
    c.feed (.answered status pieces .complete) = feedOfLines .finished (linesOf pieces.flatten) := by
  rw [feed_eq hstatus h, feedOfLines, ite_self]

/-- Of a body with a line that is too long some lines in front of that line are heard. -/
lemma exists_heard (hstatus : isSuccess status = true) {pieces : List (List UInt8)}
    (h : ¬ Within Decoder.defaultLimit pieces.flatten) :
    ∃ ls, ls <+: heard Decoder.defaultLimit pieces.flatten ∧
      c.feed (.answered status pieces .complete) = feedOfLines overlong ls := by
  obtain ⟨before, piece, after, rfl, hbefore, hpiece⟩ := exists_overlong_piece h
  refine ⟨completed before.flatten, ?_, feed_overlong hstatus before piece after hbefore hpiece⟩
  rw [List.flatten_append]
  exact completed_prefix hbefore _

/-- What cuts do to a feed. -/
structure CutsShow (c : Client) (status : Nat) (body : List UInt8) : Prop where
  /-- All of a body is heard if no line is too long. -/
  whole : Within Decoder.defaultLimit body → ∀ pieces : List (List UInt8), pieces.flatten = body →
    c.feed (.answered status pieces .complete) = feedOfLines .finished (linesOf body)
  /-- Otherwise a part of what stands in front of the first line that is too long. -/
  part : ¬ Within Decoder.defaultLimit body → ∀ pieces : List (List UInt8), pieces.flatten = body →
    ∃ ls, ls <+: heard Decoder.defaultLimit body ∧
      c.feed (.answered status pieces .complete) = feedOfLines overlong ls
  /-- Which part it is depends on the cuts unless nothing stands there. -/
  alike : (∀ pieces pieces' : List (List UInt8), pieces.flatten = body → pieces'.flatten = body →
      c.feed (.answered status pieces .complete) = c.feed (.answered status pieces' .complete)) ↔
    Within Decoder.defaultLimit body ∨ chunksOfLines (heard Decoder.defaultLimit body) = ([], false)

/-- A feed shows the cuts of its body just if a line that is too long has a chunk or an end mark in front of it. -/
theorem cuts_show (hstatus : isSuccess status = true) (body : List UInt8) : CutsShow c status body := by
  have hpart : ¬ Within Decoder.defaultLimit body → ∀ pieces : List (List UInt8), pieces.flatten = body →
      ∃ ls, ls <+: heard Decoder.defaultLimit body ∧
        c.feed (.answered status pieces .complete) = feedOfLines overlong ls := by
    rintro hlong pieces rfl
    exact exists_heard hstatus hlong
  refine ⟨?_, hpart, ?_, ?_⟩
  · rintro hwithin pieces rfl
    exact feed_within hstatus hwithin
  · intro hsame
    by_contra hnot
    obtain ⟨hlong, hsomething⟩ := not_or.mp hnot
    obtain ⟨head, rest, rfl, hhead, hheard⟩ := exists_cut hlong
    -- in one piece nothing is heard, and cut in front of the line all that stands there
    have hone : c.feed (.answered status [head ++ rest] .complete) = feedOfLines overlong (completed []) :=
      feed_overlong hstatus [] (head ++ rest) [] (.of_length (Nat.zero_le _)) hlong
    have htwo : c.feed (.answered status [head, rest] .complete) = feedOfLines overlong (completed head) := by
      have hflat : [head].flatten = head := List.flatten_singleton
      have hfeed := feed_overlong (c := c) hstatus [head] rest [] (by rwa [hflat]) (by rwa [hflat])
      rwa [hflat] at hfeed
    have heq := hsame [head ++ rest] [head, rest] (by simp) (by simp)
    rw [hone, htwo, completed_of_not_mem List.not_mem_nil, hheard] at heq
    obtain ⟨hchunks, hending⟩ := Feed.mk.inj heq
    refine hsomething (Prod.ext hchunks.symm ?_)
    cases hdone : (chunksOfLines (heard Decoder.defaultLimit (head ++ rest))).2 with
    | false => rfl
    | true =>
      rw [hdone] at hending
      cases hending
  · rintro (hwithin | hnothing) pieces pieces' rfl hpieces'
    · rw [feed_within hstatus hwithin, ← hpieces', feed_within hstatus (hpieces' ▸ hwithin)]
    · by_cases hwithin : Within Decoder.defaultLimit pieces.flatten
      · rw [feed_within hstatus hwithin, ← hpieces', feed_within hstatus (hpieces' ▸ hwithin)]
      · have hsilent : ∀ pieces' : List (List UInt8), pieces'.flatten = pieces.flatten →
            c.feed (.answered status pieces' .complete) = ⟨[], overlong⟩ := by
          intro pieces' hflat
          obtain ⟨ls, hprefix, hfeed⟩ := hpart hwithin pieces' hflat
          rw [hfeed, feedOfLines, chunksOfLines_of_prefix hprefix hnothing]
          rfl
        rw [hsilent pieces rfl, hsilent pieces' hpieces']

/-! An end mark in front of a line that is too long. -/

/-- The line of the end mark. -/
def markLine : List UInt8 := Text.Utf8.encoded ("data: ".toList ++ endMark.toList) ++ [10]

/-- One byte more than a line may have. -/
def longLine : List UInt8 := List.replicate (Decoder.defaultLimit + 1) 120

lemma markLine_within : Within Decoder.defaultLimit markLine := .of_length (by decide)

lemma rawLines_markLine (rest : List UInt8) :
    rawLines (markLine ++ rest) = Text.Utf8.encoded ("data: ".toList ++ endMark.toList) :: rawLines rest := by
  rw [markLine, List.append_assoc, List.singleton_append, rawLines_line (by decide)]

lemma completed_markLine : completed markLine = [.done] := by
  have hlines := rawLines_markLine []
  rw [List.append_nil] at hlines
  rw [completed, hlines]
  simp only [rawLines, List.splitOn_nil, List.dropLast_cons_cons, List.dropLast_singleton, List.filterMap_cons,
    parseLine_data clean_endMark]
  rfl

lemma longLine_overlong : ¬ Within Decoder.defaultLimit (markLine ++ longLine) := by
  intro hwithin
  have hlong : 10 ∉ longLine := fun hmem => absurd (List.eq_of_mem_replicate hmem) (by decide)
  have hlength := hwithin longLine (by rw [rawLines_markLine, rawLines_of_not_mem hlong]; simp)
  rw [longLine, List.length_replicate] at hlength
  omega

/-- Where the end mark and the line share a piece, the end mark is not heard. -/
theorem endMark_unheard : [markLine, longLine].flatten = [markLine ++ longLine].flatten ∧
    Client.feed ⟨"", "", "", ⟨0, 0, 0⟩⟩ (.answered 200 [markLine, longLine] .complete) = ⟨[], .finished⟩ ∧
    Client.feed ⟨"", "", "", ⟨0, 0, 0⟩⟩ (.answered 200 [markLine ++ longLine] .complete) = ⟨[], overlong⟩ := by
  have hsuccess : isSuccess 200 = true := by decide
  have hflat : [markLine].flatten = markLine := List.flatten_singleton
  refine ⟨by simp, ?_, feed_overlong hsuccess [] _ [] (.of_length (Nat.zero_le _)) longLine_overlong⟩
  have hfeed := feed_overlong (c := ⟨"", "", "", ⟨0, 0, 0⟩⟩) hsuccess [markLine] longLine []
    (by rw [hflat]; exact markLine_within) (by rw [hflat]; exact longLine_overlong)
  rw [hflat, completed_markLine] at hfeed
  exact hfeed

theorem cuts_show_endMark : isSuccess 200 = true ∧
    ¬ ∀ pieces pieces' : List (List UInt8), pieces.flatten = markLine ++ longLine →
      pieces'.flatten = markLine ++ longLine →
      Client.feed ⟨"", "", "", ⟨0, 0, 0⟩⟩ (.answered 200 pieces .complete) =
        Client.feed ⟨"", "", "", ⟨0, 0, 0⟩⟩ (.answered 200 pieces' .complete) := by
  have hsuccess : isSuccess 200 = true := by decide
  refine ⟨hsuccess, fun hsame => ?_⟩
  rcases (cuts_show hsuccess _).alike.mp hsame with hwithin | hnothing
  · exact longLine_overlong hwithin
  · have hprefix := completed_prefix markLine_within longLine
    rw [completed_markLine] at hprefix
    cases chunksOfLines_of_prefix hprefix hnothing

end CompletionGateway.Client
