import CompletionGateway.Proofs.EventStream.Lines

/-! Bodies with a line that is longer than a decoder accepts. The decoder gives up with the piece in which it notices
the line, and does not hand out the lines that this piece completes in front of it. What has been read by then depends on
how the body is cut into pieces. -/
namespace CompletionGateway.EventStream

/-- What the lines carry that a line feed has ended. -/
def completed (body : List UInt8) : List Line := (rawLines body).dropLast.filterMap parseLine

/-- What the lines carry in front of the first that is too long. -/
def heard (limit : Nat) (body : List UInt8) : List Line :=
  ((rawLines body).takeWhile (·.length ≤ limit)).filterMap parseLine

/-! ### Lines in front of others -/

lemma completed_of_not_mem {line : List UInt8} (h : 10 ∉ line) : completed line = [] := by
  rw [completed, rawLines_of_not_mem h]
  rfl

lemma completed_append {xs : List UInt8} {init : List (List UInt8)} {last : List UInt8}
    (h : rawLines xs = init ++ [last]) (ys : List UInt8) :
    completed (xs ++ ys) = init.filterMap parseLine ++ completed (last ++ ys) := by
  rw [completed, rawLines_append h, List.dropLast_append_of_ne_nil (rawLines_ne_nil _), List.filterMap_append]
  rfl

lemma completed_eq {xs : List UInt8} {init : List (List UInt8)} {last : List UInt8} (h : rawLines xs = init ++ [last]) :
    completed xs = init.filterMap parseLine := by
  rw [completed, h, List.dropLast_concat]

/-- Lines that were completed in time are in front of the line that is too long. -/
lemma completed_prefix {limit : Nat} {xs : List UInt8} (h : Within limit xs) (ys : List UInt8) :
    completed xs <+: heard limit (xs ++ ys) := by
  obtain ⟨init, last, hlines⟩ := exists_rawLines xs
  have hshort : ∀ l ∈ init, decide (l.length ≤ limit) = true := fun l hl =>
    decide_eq_true (h l (by rw [hlines]; exact List.mem_append_left _ hl))
  rw [completed_eq hlines, heard, rawLines_append hlines, List.takeWhile_append_of_pos hshort, List.filterMap_append]
  exact List.prefix_append _ _

/-- The first of several lines ends with a line feed. -/
lemma exists_of_rawLines_cons {body line : List UInt8} {lines : List (List UInt8)} (h : rawLines body = line :: lines)
    (hmore : lines ≠ []) : ∃ rest, body = line ++ 10 :: rest ∧ rawLines rest = lines := by
  rw [Decoder.rawLines_dropWhile] at h
  split at h
  · obtain ⟨-, rfl⟩ := List.cons.inj h
    exact absurd rfl hmore
  · rename_i b rest hdrop
    obtain ⟨rfl, rfl⟩ := List.cons.inj h
    have hb : Decoder.isNewline b = true := by
      have hhead := List.head?_dropWhile_not (fun b => !Decoder.isNewline b) body
      simpa [hdrop] using hhead
    obtain rfl : b = 10 := by simpa [Decoder.isNewline] using hb
    exact ⟨rest, by rw [← hdrop, List.takeWhile_append_dropWhile], rfl⟩

lemma exists_of_rawLines_append {body : List UInt8} {init lines : List (List UInt8)} (h : rawLines body = init ++ lines)
    (hmore : lines ≠ []) : ∃ rest, body = init.flatMap (· ++ [10]) ++ rest ∧ rawLines rest = lines := by
  induction init generalizing body with
  | nil => exact ⟨body, rfl, h⟩
  | cons line init ih =>
    obtain ⟨rest, rfl, hrest⟩ := exists_of_rawLines_cons h (by simp [hmore])
    obtain ⟨rest', rfl, hlines⟩ := ih hrest
    exact ⟨rest', by simp, hlines⟩

/-- A body can be cut in front of its first line that is too long. -/
lemma exists_cut {limit : Nat} {body : List UInt8} (h : ¬ Within limit body) :
    ∃ head rest, body = head ++ rest ∧ Within limit head ∧ completed head = heard limit body := by
  obtain ⟨l, hl, hlong⟩ : ∃ l ∈ rawLines body, ¬ l.length ≤ limit := by simpa [Within] using h
  have hsplit : (rawLines body).takeWhile (·.length ≤ limit) ++ (rawLines body).dropWhile (·.length ≤ limit) =
      rawLines body := List.takeWhile_append_dropWhile
  have hmore : (rawLines body).dropWhile (·.length ≤ limit) ≠ [] := by
    intro hnil
    exact hlong (of_decide_eq_true (List.dropWhile_eq_nil_iff.mp hnil l hl))
  obtain ⟨rest, hbody, -⟩ := exists_of_rawLines_append hsplit.symm hmore
  have hfront := rawLines_terminated (fun l (hl : l ∈ (rawLines body).takeWhile (·.length ≤ limit)) =>
    not_mem_of_mem_rawLines ((List.takeWhile_sublist _).mem hl)) []
  rw [List.append_nil] at hfront
  refine ⟨_, rest, hbody, ?_, completed_eq hfront⟩
  intro l hl
  rw [hfront] at hl
  rcases List.mem_append.mp hl with hl | hl
  · exact of_decide_eq_true (List.mem_takeWhile_imp (p := fun l : List UInt8 => decide (l.length ≤ limit)) hl)
  · obtain rfl : l = [] := by simpa [rawLines] using hl
    exact Nat.zero_le _

/-- A decoder notices a line that is too long with a certain piece. -/
lemma exists_overlong_piece {limit : Nat} {pieces : List (List UInt8)} (h : ¬ Within limit pieces.flatten) :
    ∃ before piece after, pieces = before ++ piece :: after ∧ Within limit before.flatten ∧
      ¬ Within limit (before.flatten ++ piece) := by
  induction pieces using List.reverseRecOn with
  | nil => exact absurd (Within.of_length (Nat.zero_le _)) h
  | append_singleton pieces piece ih =>
    by_cases hwithin : Within limit pieces.flatten
    · exact ⟨pieces, piece, [], rfl, hwithin, by simpa using h⟩
    · obtain ⟨before, piece', after, rfl, hbefore, hpiece⟩ := ih hwithin
      exact ⟨before, piece', after ++ [piece], by simp, hbefore, hpiece⟩

/-! ### Reading -/

namespace Decoder

lemma drain_overlong {limit : Nat} {bytes : List UInt8} (h : ¬ Within limit bytes) (out : List Line) :
    drain limit bytes out = none := by
  induction bytes, out using drain.induct limit with
  | case1 bytes out hdrop hlong => rw [drain_of_nil hdrop, if_pos hlong]
  | case2 bytes out hdrop hshort =>
    refine absurd ?_ h
    intro l hl
    rw [rawLines_dropWhile, hdrop] at hl
    rw [List.mem_singleton.mp hl]
    exact Nat.le_of_not_lt hshort
  | case3 bytes out b rest hdrop line hlong => rw [drain_of_cons hdrop, if_pos hlong]
  | case4 bytes out b rest hdrop line hshort ih =>
    have hrest : ¬ Within limit rest := by
      refine fun hwithin => h fun l hl => ?_
      rw [rawLines_dropWhile, hdrop] at hl
      rcases List.mem_cons.mp hl with rfl | hl
      · exact Nat.le_of_not_lt hshort
      · exact hwithin l hl
    rw [drain_of_cons hdrop, if_neg hshort, ih hrest]

lemma push_overlong {d : Decoder} {piece : List UInt8} (h : ¬ Within d.limit (d.buffer ++ piece)) :
    d.push piece = (.error (oversized d.limit), fresh d.limit) := by
  rw [push, drain_overlong h]

lemma readAll_overlong {d : Decoder} {pieces : List (List UInt8)} (hbuffer : Within d.limit d.buffer)
    (h : ¬ Within d.limit (d.buffer ++ pieces.flatten)) : d.readAll pieces = .error (oversized d.limit) := by
  induction pieces generalizing d with
  | nil => exact absurd (by simpa using hbuffer) h
  | cons piece pieces ih =>
    rw [List.flatten_cons, ← List.append_assoc] at h
    by_cases hpiece : Within d.limit (d.buffer ++ piece)
    · obtain ⟨init, last, hlines, hlast, hpush⟩ := push_ok hpiece
      have hrest : Within d.limit last := by
        simpa using (within_append_iff hlines hpiece []).mp (by rwa [List.append_nil])
      have hmore : ¬ Within d.limit (last ++ pieces.flatten) := by
        rwa [within_append_iff hlines hpiece] at h
      rw [readAll, hpush]
      dsimp only
      rw [ih hrest hmore]
      rfl
    · rw [readAll, push_overlong hpiece]

end Decoder
end CompletionGateway.EventStream
