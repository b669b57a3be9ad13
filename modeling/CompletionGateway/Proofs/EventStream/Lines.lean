import Mathlib
import CompletionGateway.EventStream.Decoder

/-! The lines of a body of server-sent events. However its bytes are cut into pieces, a decoder reads the same lines
from them, as long as none is longer than its limit. -/
namespace CompletionGateway.EventStream

/-- The lines of a body without their line feeds, the last one being what stands behind the last line feed. -/
def rawLines (body : List UInt8) : List (List UInt8) := body.splitOn 10

/-- What the lines of a body carry. -/
def linesOf (body : List UInt8) : List Line := (rawLines body).filterMap parseLine

/-- No line of the body is longer than the limit. -/
def Within (limit : Nat) (body : List UInt8) : Prop := ∀ l ∈ rawLines body, l.length ≤ limit

/-! ### Lines -/

lemma rawLines_ne_nil (body : List UInt8) : rawLines body ≠ [] := List.splitOn_ne_nil 10 body

lemma exists_rawLines (body : List UInt8) : ∃ init last, rawLines body = init ++ [last] :=
  ⟨_, _, (List.dropLast_append_getLast (rawLines_ne_nil body)).symm⟩

lemma rawLines_cons (b : UInt8) (body : List UInt8) :
    rawLines (b :: body) = if b = 10 then [] :: rawLines body else (rawLines body).modifyHead (b :: ·) := by
  simp only [rawLines, List.splitOn_cons_eq_if_modifyHead, beq_iff_eq]

lemma rawLines_line {line : List UInt8} (h : 10 ∉ line) (body : List UInt8) :
    rawLines (line ++ 10 :: body) = line :: rawLines body := List.splitOn_append_cons_self_of_not_mem h body

/-- Lines that line feeds end. -/
lemma rawLines_terminated {init : List (List UInt8)} (h : ∀ l ∈ init, 10 ∉ l) (rest : List UInt8) :
    rawLines (init.flatMap (· ++ [10]) ++ rest) = init ++ rawLines rest := by
  induction init with
  | nil => rfl
  | cons line init ih =>
    have hline : (line :: init).flatMap (· ++ [10]) ++ rest = line ++ 10 :: (init.flatMap (· ++ [10]) ++ rest) := by
      simp
    rw [hline, rawLines_line (h line List.mem_cons_self), ih fun l hl => h l (List.mem_cons_of_mem _ hl)]
    rfl

lemma rawLines_of_not_mem {line : List UInt8} (h : 10 ∉ line) : rawLines line = [line] := List.splitOn_eq_singleton h

lemma not_mem_of_mem_rawLines {body l : List UInt8} (h : l ∈ rawLines body) : 10 ∉ l := by
  induction body generalizing l with
  | nil =>
    obtain rfl : l = [] := by simpa [rawLines] using h
    exact List.not_mem_nil
  | cons b body ih =>
    rw [rawLines_cons] at h
    split at h
    · rcases List.mem_cons.mp h with rfl | h
      · exact List.not_mem_nil
      · exact ih h
    · rename_i hb
      obtain ⟨first, rest, hlines⟩ := List.exists_cons_of_ne_nil (rawLines_ne_nil body)
      rw [hlines, List.modifyHead_cons] at h
      rcases List.mem_cons.mp h with rfl | h
      · have hfirst := ih (hlines ▸ List.mem_cons_self)
        simp only [List.mem_cons, not_or]
        exact ⟨fun heq => hb heq.symm, hfirst⟩
      · exact ih (hlines ▸ List.mem_cons_of_mem _ h)

lemma length_le_of_mem_rawLines {body l : List UInt8} (h : l ∈ rawLines body) : l.length ≤ body.length := by
  induction body generalizing l with
  | nil =>
    obtain rfl : l = [] := by simpa [rawLines] using h
    exact Nat.le_refl 0
  | cons b body ih =>
    rw [rawLines_cons] at h
    rw [List.length_cons]
    split at h
    · rcases List.mem_cons.mp h with rfl | h
      · exact Nat.zero_le _
      · exact Nat.le_succ_of_le (ih h)
    · obtain ⟨first, rest, hlines⟩ := List.exists_cons_of_ne_nil (rawLines_ne_nil body)
      rw [hlines, List.modifyHead_cons] at h
      rcases List.mem_cons.mp h with rfl | h
      · exact Nat.succ_le_succ (ih (hlines ▸ List.mem_cons_self))
      · exact Nat.le_succ_of_le (ih (hlines ▸ List.mem_cons_of_mem _ h))

/-- What follows a text goes on in its last line. -/
lemma rawLines_append {xs : List UInt8} {init : List (List UInt8)} {last : List UInt8}
    (h : rawLines xs = init ++ [last]) (ys : List UInt8) : rawLines (xs ++ ys) = init ++ rawLines (last ++ ys) := by
  induction xs generalizing init last with
  | nil =>
    obtain ⟨rfl, rfl⟩ : init = [] ∧ last = [] := by
      cases init with
      | nil => exact ⟨rfl, by simpa [rawLines] using h.symm⟩
      | cons l init => simp [rawLines] at h
    rfl
  | cons b xs ih =>
    obtain ⟨init', last', hxs⟩ := exists_rawLines xs
    rw [rawLines_cons, hxs] at h
    rw [List.cons_append, rawLines_cons, ih hxs]
    split at h
    · rename_i hb
      rw [if_pos hb]
      rw [← List.cons_append] at h
      obtain ⟨rfl, hlast⟩ := List.append_inj' h rfl
      obtain rfl := List.singleton_inj.mp hlast
      rfl
    · rename_i hb
      rw [if_neg hb]
      cases init' with
      | nil =>
        obtain ⟨rfl, hlast⟩ := List.append_inj' (show [] ++ [b :: last'] = init ++ [last] from h) rfl
        obtain rfl := List.singleton_inj.mp hlast
        rw [List.nil_append, List.nil_append, List.cons_append, rawLines_cons, if_neg hb]
      | cons l init' =>
        obtain ⟨rfl, hlast⟩ := List.append_inj' (show ((b :: l) :: init') ++ [last'] = init ++ [last] from h) rfl
        obtain rfl := List.singleton_inj.mp hlast
        rfl

/-- A line that goes on is a longer line. -/
lemma rawLines_extend {line : List UInt8} (h : 10 ∉ line) (ys : List UInt8) :
    rawLines (line ++ ys) = (rawLines ys).modifyHead (line ++ ·) := by
  induction line with
  | nil =>
    rw [List.nil_append]
    cases rawLines ys <;> rfl
  | cons b line ih =>
    simp only [List.mem_cons, not_or] at h
    rw [List.cons_append, rawLines_cons, if_neg (fun heq => h.1 heq.symm), ih h.2, List.modifyHead_modifyHead]
    rfl

lemma Within.of_length {limit : Nat} {body : List UInt8} (h : body.length ≤ limit) : Within limit body :=
  fun _ hl => (length_le_of_mem_rawLines hl).trans h

/-- The lines in front of what stands behind the last line feed are lines of any longer body, and that is the front of
another. -/
lemma Within.of_append {limit : Nat} {xs ys : List UInt8} (h : Within limit (xs ++ ys)) : Within limit xs := by
  obtain ⟨init, last, hlines⟩ := exists_rawLines xs
  have hlast : 10 ∉ last := not_mem_of_mem_rawLines (show last ∈ rawLines xs by simp [hlines])
  obtain ⟨first, rest, hfirst⟩ := List.exists_cons_of_ne_nil (rawLines_ne_nil ys)
  have hall : rawLines (xs ++ ys) = init ++ (last ++ first) :: rest := by
    rw [rawLines_append hlines, rawLines_extend hlast, hfirst, List.modifyHead_cons]
  intro l hl
  rw [hlines] at hl
  rcases List.mem_append.mp hl with hl | hl
  · exact h l (by rw [hall]; exact List.mem_append_left _ hl)
  · obtain rfl := List.mem_singleton.mp hl
    have hlonger := h (l ++ first) (by rw [hall]; simp)
    rw [List.length_append] at hlonger
    omega

/-- Behind lines that are not too long it depends on the rest whether one is. -/
lemma within_append_iff {limit : Nat} {xs : List UInt8} {init : List (List UInt8)} {last : List UInt8}
    (hlines : rawLines xs = init ++ [last]) (hxs : Within limit xs) (ys : List UInt8) :
    Within limit (xs ++ ys) ↔ Within limit (last ++ ys) := by
  rw [Within, Within, rawLines_append hlines]
  constructor
  · intro h l hl
    exact h l (List.mem_append_right _ hl)
  · intro h l hl
    rcases List.mem_append.mp hl with hl | hl
    · exact hxs l (by rw [hlines]; exact List.mem_append_left _ hl)
    · exact h l hl

/-! ### One piece -/

namespace Decoder

lemma rawLines_dropWhile (bytes : List UInt8) :
    rawLines bytes = match bytes.dropWhile (!isNewline ·) with
      | [] => [bytes]
      | _ :: rest => bytes.takeWhile (!isNewline ·) :: rawLines rest := by
  induction bytes with
  | nil => rfl
  | cons b bytes ih =>
    rw [rawLines_cons]
    by_cases hb : b = 10
    · simp [hb, isNewline]
    · have hnewline : isNewline b = false := by simp [isNewline, hb]
      rw [if_neg hb, ih, List.dropWhile_cons_of_pos (by simp [hnewline]),
        List.takeWhile_cons_of_pos (by simp [hnewline])]
      split <;> rfl

lemma drain_of_nil {bytes : List UInt8} (h : bytes.dropWhile (!isNewline ·) = []) (limit : Nat) (out : List Line) :
    drain limit bytes out = if limit < bytes.length then none else some (out.reverse, bytes) := by
  unfold drain
  split
  · rfl
  · simp_all

lemma drain_of_cons {bytes rest : List UInt8} {b : UInt8} (h : bytes.dropWhile (!isNewline ·) = b :: rest)
    (limit : Nat) (out : List Line) :
    drain limit bytes out = if limit < (bytes.takeWhile (!isNewline ·)).length then none
      else drain limit rest ((parseLine (bytes.takeWhile (!isNewline ·))).toList ++ out) := by
  conv_lhs => unfold drain
  split
  · simp_all
  · rename_i b' rest' hdrop'
    obtain ⟨rfl, rfl⟩ := List.cons.inj (h.symm.trans hdrop')
    rfl

/-- All lines but the last one are taken from the buffer if none is too long. -/
lemma drain_eq {limit : Nat} {bytes : List UInt8} {init : List (List UInt8)} {last : List UInt8}
    (h : rawLines bytes = init ++ [last]) (hlimit : Within limit bytes) (out : List Line) :
    drain limit bytes out = some (out.reverse ++ init.filterMap parseLine, last) := by
  induction bytes, out using drain.induct limit generalizing init with
  | case1 bytes out hdrop hlong =>
    rw [rawLines_dropWhile, hdrop] at h
    have hbytes := hlimit bytes (by rw [rawLines_dropWhile, hdrop]; exact List.mem_cons_self)
    omega
  | case2 bytes out hdrop hshort =>
    rw [rawLines_dropWhile, hdrop] at h
    obtain ⟨rfl, hlast⟩ := List.append_inj' (show [] ++ [bytes] = init ++ [last] from h) rfl
    obtain rfl := List.singleton_inj.mp hlast
    rw [drain_of_nil hdrop, if_neg hshort]
    simp
  | case3 bytes out b rest hdrop line =>
    rename_i hlong
    have hline := hlimit line (by rw [rawLines_dropWhile, hdrop]; exact List.mem_cons_self)
    omega
  | case4 bytes out b rest hdrop line hshort =>
    rename_i ih
    have hlines : rawLines bytes = line :: rawLines rest := by rw [rawLines_dropWhile, hdrop]
    obtain ⟨init', last', hrest⟩ := exists_rawLines rest
    rw [hlines, hrest, ← List.cons_append] at h
    obtain ⟨rfl, hlast⟩ := List.append_inj' h rfl
    obtain rfl := List.singleton_inj.mp hlast
    have hwithin : Within limit rest := fun l hl => hlimit l (hlines ▸ List.mem_cons_of_mem _ hl)
    rw [drain_of_cons hdrop, if_neg hshort, ih hrest hwithin, List.filterMap_cons]
    cases parseLine line <;> simp

/-- A piece gives the lines that it completes, and what stands behind them waits. -/
lemma push_ok {d : Decoder} {piece : List UInt8} (h : Within d.limit (d.buffer ++ piece)) :
    ∃ init last, rawLines (d.buffer ++ piece) = init ++ [last] ∧ 10 ∉ last ∧
      d.push piece = (.ok (init.filterMap parseLine), ⟨last, d.limit⟩) := by
  obtain ⟨init, last, hlines⟩ := exists_rawLines (d.buffer ++ piece)
  refine ⟨init, last, hlines, not_mem_of_mem_rawLines (show last ∈ rawLines (d.buffer ++ piece) by simp [hlines]), ?_⟩
  rw [push, drain_eq hlines h]
  rfl

/-- The rest of a body reads as if it followed the last line that was taken. -/
lemma push_eq {d : Decoder} {piece more : List UInt8} (h : Within d.limit (d.buffer ++ (piece ++ more))) :
    ∃ lines last, d.push piece = (.ok lines, ⟨last, d.limit⟩) ∧ 10 ∉ last ∧ Within d.limit (last ++ more) ∧
      linesOf (d.buffer ++ (piece ++ more)) = lines ++ linesOf (last ++ more) := by
  rw [← List.append_assoc] at h ⊢
  obtain ⟨init, last, hlines, hlast, hpush⟩ := push_ok h.of_append
  refine ⟨_, last, hpush, hlast, (within_append_iff hlines h.of_append more).mp h, ?_⟩
  rw [linesOf, rawLines_append hlines, List.filterMap_append]
  rfl

/-! ### Whole bodies -/

/-- The lines of a body that arrives in pieces. -/
def readAll (d : Decoder) : List (List UInt8) → Except ProviderError (List Line)
  | [] => .ok d.finish.1.toList
  | piece :: pieces =>
    match d.push piece with
    | (.error e, _) => .error e
    | (.ok lines, d) => (d.readAll pieces).map (lines ++ ·)

lemma finish_eq {d : Decoder} (h : 10 ∉ d.buffer) : d.finish.1.toList = linesOf d.buffer := by
  rw [linesOf, rawLines_of_not_mem h, List.filterMap_cons]
  unfold finish
  cases parseLine d.buffer <;> rfl

lemma readAll_eq {d : Decoder} {pieces : List (List UInt8)} (hbuffer : 10 ∉ d.buffer)
    (h : Within d.limit (d.buffer ++ pieces.flatten)) :
    d.readAll pieces = .ok (linesOf (d.buffer ++ pieces.flatten)) := by
  induction pieces generalizing d with
  | nil => rw [readAll, finish_eq hbuffer, List.flatten_nil, List.append_nil]
  | cons piece pieces ih =>
    obtain ⟨lines, last, hpush, hlast, hmore, hlines⟩ := push_eq h
    rw [readAll, hpush]
    dsimp only
    rw [ih hlast hmore, List.flatten_cons, hlines]
    rfl

/-- The lines of a body are the same in whatever pieces it arrives. -/
theorem readAll_fresh {limit : Nat} {pieces : List (List UInt8)} (h : Within limit pieces.flatten) :
    (fresh limit).readAll pieces = .ok (linesOf pieces.flatten) := readAll_eq (d := fresh limit) List.not_mem_nil h

end Decoder
end CompletionGateway.EventStream
