import CompletionGateway.Address
import CompletionGateway.Http.UrlEncoding
import CompletionGateway.Proofs.Numeric.Places

/-! The text of an address tells the address. An address of version 6 is told in one of three forms; from the parts
between the colons all its groups are known. -/
namespace CompletionGateway

/-! ### Parts between separators -/

namespace Http
variable {α : Type} [DecidableEq α] {separator : α}

lemma splitAt_ne_nil (xs : List α) : splitAt separator xs ≠ [] := by
  cases xs with
  | nil => simp [splitAt]
  | cons x xs =>
    unfold splitAt
    split
    · simp
    · split <;> simp

lemma splitAt_cons_self (xs : List α) : splitAt separator (separator :: xs) = [] :: splitAt separator xs := by
  rw [splitAt]
  split
  · exact absurd ‹_› (splitAt_ne_nil xs)
  · rename_i p ps heq
    rw [if_pos rfl, heq]

lemma splitAt_cons_of_ne {x : α} (h : x ≠ separator) {xs p : List α} {ps : List (List α)}
    (heq : splitAt separator xs = p :: ps) : splitAt separator (x :: xs) = (x :: p) :: ps := by
  rw [splitAt, heq]
  exact if_neg h

lemma splitAt_append (xs ys : List α) :
    splitAt separator (xs ++ separator :: ys) = splitAt separator xs ++ splitAt separator ys := by
  induction xs with
  | nil => exact splitAt_cons_self ys
  | cons x xs ih =>
    by_cases hx : x = separator
    · rw [hx, List.cons_append, splitAt_cons_self, splitAt_cons_self, ih, List.cons_append]
    · have hne : splitAt separator xs ≠ [] := splitAt_ne_nil xs
      obtain ⟨p, ps, heq⟩ := List.exists_cons_of_ne_nil hne
      rw [heq, List.cons_append] at ih
      rw [List.cons_append, splitAt_cons_of_ne hx heq, splitAt_cons_of_ne hx ih, List.cons_append]

lemma splitAt_of_not_mem {xs : List α} (h : separator ∉ xs) : splitAt separator xs = [xs] := by
  induction xs with
  | nil => rfl
  | cons x xs ih =>
    obtain ⟨hx, hxs⟩ := not_or.mp (mt List.mem_cons.mpr h)
    exact splitAt_cons_of_ne (Ne.symm hx) (ih hxs)

end Http

namespace Address

/-- Fields that were joined come apart again. -/
lemma splitAt_joined {separator : Char} {ps : List (List Char)} (h : ∀ p ∈ ps, separator ∉ p) (hps : ps ≠ []) :
    Http.splitAt separator (joined [separator] ps) = ps := by
  induction ps with
  | nil => exact absurd rfl hps
  | cons p ps ih =>
    obtain ⟨hp, hrest⟩ := List.forall_mem_cons.mp h
    cases ps with
    | nil => exact Http.splitAt_of_not_mem hp
    | cons q qs =>
      have hjoined : joined [separator] (p :: q :: qs) = p ++ separator :: joined [separator] (q :: qs) := by
        rw [joined, List.append_assoc, List.singleton_append]
        exact nofun
      rw [hjoined, Http.splitAt_append, Http.splitAt_of_not_mem hp, ih hrest (by simp), List.singleton_append]

lemma mem_joined {separators : List Char} {ps : List (List Char)} {c : Char} (h : c ∈ joined separators ps) :
    c ∈ separators ∨ ∃ p ∈ ps, c ∈ p := by
  induction ps with
  | nil => simp [joined] at h
  | cons p ps ih =>
    cases ps with
    | nil => exact .inr ⟨p, List.mem_cons_self, h⟩
    | cons q qs =>
      rw [joined, List.mem_append, List.mem_append] at h
      · rcases h with (h | h) | h
        · exact .inr ⟨p, List.mem_cons_self, h⟩
        · exact .inl h
        · refine (ih h).imp_right ?_
          rintro ⟨p', hp', hc⟩
          exact ⟨p', List.mem_cons_of_mem p hp', hc⟩
      · exact nofun

/-- A character that is no hexadecimal digit. -/
def NoDigit (c : Char) : Prop := ∀ d < 16, Nat.digitChar d ≠ c

instance (c : Char) : Decidable (NoDigit c) := inferInstanceAs (Decidable (∀ d < 16, _))

/-- Numerals between separators have no other characters than separators and digits. -/
lemma not_mem_numerals {radix : Nat} (h : 1 < radix) (h' : radix ≤ 16) {separator c : Char} (hc : NoDigit c)
    (hne : c ≠ separator) (ns : List Nat) : c ∉ joined [separator] (ns.map (Nat.toDigits radix)) := by
  intro hmem
  rcases mem_joined hmem with hmem | ⟨p, hp, hmem⟩
  · exact hne (List.mem_singleton.mp hmem)
  · obtain ⟨n, -, rfl⟩ := List.mem_map.mp hp
    exact Numeric.not_mem_toDigits h h' hc n hmem

/-- Numerals that were joined come apart again. -/
lemma splitAt_numerals {radix : Nat} (h : 1 < radix) (h' : radix ≤ 16) {separator : Char} (hseparator : NoDigit separator)
    {ns : List Nat} (hns : ns ≠ []) :
    Http.splitAt separator (joined [separator] (ns.map (Nat.toDigits radix))) = ns.map (Nat.toDigits radix) := by
  refine splitAt_joined ?_ (by simpa using hns)
  intro p hp
  obtain ⟨n, -, rfl⟩ := List.mem_map.mp hp
  exact Numeric.not_mem_toDigits h h' hseparator n

/-! ### Version 4 -/

lemma ofOctets_octets (bits : BitVec 32) : ofOctets (octets bits) = bits := by
  have hplaces : octets bits = (List.range 4).map fun i => bits.toNat / 256 ^ (4 - 1 - i) % 256 := rfl
  rw [ofOctets, hplaces, Numeric.foldl_all_places (bits.isLt.trans_eq (by norm_num)), BitVec.ofNat_toNat,
    BitVec.setWidth_eq]

lemma octets_injective : Function.Injective octets := Function.LeftInverse.injective ofOctets_octets

lemma splitAt_v4Chars (bits : BitVec 32) : Http.splitAt '.' (v4Chars bits) = (octets bits).map (Nat.toDigits 10) :=
  splitAt_numerals (by decide) (by decide) (by decide) (by simp [octets])

lemma v4Chars_injective : Function.Injective v4Chars := by
  intro a b h
  have hparts := congrArg (Http.splitAt '.') h
  rw [splitAt_v4Chars, splitAt_v4Chars] at hparts
  exact octets_injective (List.map_injective_iff.mpr (Numeric.toDigits_injective (by decide) (by decide)) hparts)

lemma not_mem_v4Chars {c : Char} (hc : NoDigit c) (hdot : c ≠ '.') (bits : BitVec 32) : c ∉ v4Chars bits :=
  not_mem_numerals (by decide) (by decide) hc hdot _

lemma dot_mem_v4Chars (bits : BitVec 32) : '.' ∈ v4Chars bits := by
  by_contra h
  have hlength := congrArg List.length (splitAt_v4Chars bits)
  rw [Http.splitAt_of_not_mem h] at hlength
  simp [octets] at hlength

/-! ### Version 6 -/

/-- Groups between colons. -/
def groupChars (gs : List Nat) : List Char := joined [':'] (gs.map (Nat.toDigits 16))

/-- The prefix of an address that maps one of version 4. -/
def mappedPrefix : List Char := [':', ':', 'f', 'f', 'f', 'f', ':']

lemma groups_eq (bits : BitVec 128) :
    groups bits = (List.range 8).map fun i => bits.toNat / 65536 ^ (8 - 1 - i) % 65536 := rfl

lemma ofGroups_groups (bits : BitVec 128) : ofGroups (groups bits) = bits := by
  rw [ofGroups, groups_eq, Numeric.foldl_all_places (bits.isLt.trans_eq (by norm_num)), BitVec.ofNat_toNat,
    BitVec.setWidth_eq]

lemma groups_injective : Function.Injective groups := Function.LeftInverse.injective ofGroups_groups

/-- The longest run of zeros is one. -/
lemma longestRun_le (gs : List Nat) : (longestRun gs).2 ≤ zeroRun gs (longestRun gs).1 := by
  have hstep : ∀ (is : List Nat) (best : Nat × Nat), best.2 ≤ zeroRun gs best.1 →
      (is.foldl (fun best i => if best.2 < zeroRun gs i then (i, zeroRun gs i) else best) best).2 ≤
        zeroRun gs (is.foldl (fun best i => if best.2 < zeroRun gs i then (i, zeroRun gs i) else best) best).1 := by
    intro is
    induction is with
    | nil => exact fun best h => h
    | cons i is ih =>
      intro best h
      refine ih _ ?_
      dsimp only
      split
      · exact le_refl _
      · exact h
  exact hstep _ (0, 0) (Nat.zero_le _)

/-- Groups with a run of zeros are those in front of it, the zeros, and those behind it. -/
lemma eq_around_zeros {gs : List Nat} {i n : Nat} (h : n ≤ zeroRun gs i) :
    gs = gs.take i ++ List.replicate n 0 ++ gs.drop (i + n) := by
  have hzeros : (gs.drop i).take n = List.replicate n 0 := by
    refine List.eq_replicate_iff.mpr ⟨?_, ?_⟩
    · exact List.length_take_of_le (h.trans (List.takeWhile_prefix _).length_le)
    · intro g hg
      have hfront : (gs.drop i).take n <+: (gs.drop i).takeWhile (· == 0) :=
        List.prefix_of_prefix_length_le (List.take_prefix _ _) (List.takeWhile_prefix _)
          ((List.length_take_le _ _).trans h)
      simpa using List.mem_takeWhile_imp (hfront.subset hg)
  rw [← hzeros, List.append_assoc, ← List.drop_drop, List.take_append_drop, List.take_append_drop]

/-- The three forms of an address of version 6. -/
inductive Written (bits : BitVec 128) : List Char → Prop
  | mapped (front : (groups bits).take 6 = [0, 0, 0, 0, 0, 0xffff]) :
      Written bits (mappedPrefix ++ v4Chars (BitVec.ofNat 32 bits.toNat))
  | compressed {front zeros back} (around : groups bits = front ++ List.replicate zeros 0 ++ back) :
      Written bits (groupChars front ++ ':' :: ':' :: groupChars back)
  | full : Written bits (groupChars (groups bits))

lemma written (bits : BitVec 128) : Written bits (v6Chars bits) := by
  unfold v6Chars
  dsimp only
  split
  · exact .mapped ‹_›
  · split
    · exact .compressed (eq_around_zeros (longestRun_le _))
    · exact .full

/-! ### The forms apart -/

lemma not_mem_groupChars {c : Char} (hc : NoDigit c) (hcolon : c ≠ ':') (gs : List Nat) : c ∉ groupChars gs :=
  not_mem_numerals (by decide) (by decide) hc hcolon gs

/-- What lies between two colons in the text of groups. -/
lemma splitAt_groupChars {gs : List Nat} (h : gs ≠ []) :
    Http.splitAt ':' (groupChars gs) = gs.map (Nat.toDigits 16) :=
  splitAt_numerals (by decide) (by decide) (by decide) h

lemma nonempty_numerals (gs : List Nat) : ∀ p ∈ gs.map (Nat.toDigits 16), (!p.isEmpty) = true := by
  intro p hp
  obtain ⟨g, -, rfl⟩ := List.mem_map.mp hp
  simp [Nat.toDigits_ne_nil]

/-- The parts of a text up to the first that is empty. -/
def frontParts (cs : List Char) : List (List Char) := (Http.splitAt ':' cs).takeWhile (!·.isEmpty)

/-- The parts of a text from the end up to the first that is empty. -/
def backParts (cs : List Char) : List (List Char) := (Http.splitAt ':' cs).reverse.takeWhile (!·.isEmpty)

lemma parts_compressed (front back : List Nat) :
    frontParts (groupChars front ++ ':' :: ':' :: groupChars back) = front.map (Nat.toDigits 16) ∧
      backParts (groupChars front ++ ':' :: ':' :: groupChars back) = (back.map (Nat.toDigits 16)).reverse := by
  -- an empty list of groups has one part, which is empty
  have htold : ∀ (gs : List Nat) (rest : List (List Char)),
      ((Http.splitAt ':' (groupChars gs)) ++ [] :: rest).takeWhile (!·.isEmpty) = gs.map (Nat.toDigits 16) ∧
      ((Http.splitAt ':' (groupChars gs)).reverse ++ [] :: rest).takeWhile (!·.isEmpty) =
        (gs.map (Nat.toDigits 16)).reverse := by
    intro gs rest
    by_cases hgs : gs = []
    · subst hgs
      exact ⟨rfl, rfl⟩
    · rw [splitAt_groupChars hgs, List.takeWhile_append_of_pos (nonempty_numerals gs),
        List.takeWhile_append_of_pos fun p hp => nonempty_numerals gs p (List.mem_reverse.mp hp)]
      simp
  rw [frontParts, backParts, Http.splitAt_append, Http.splitAt_cons_self, List.reverse_append, List.reverse_cons,
    List.append_assoc]
  exact ⟨(htold front _).1, (htold back _).2⟩

lemma numerals_injective : Function.Injective (List.map (Nat.toDigits 16)) :=
  List.map_injective_iff.mpr (Numeric.toDigits_injective (by decide) (by decide))

lemma groups_length (bits : BitVec 128) : (groups bits).length = 8 := by simp [groups]

lemma groups_ne_nil (bits : BitVec 128) : groups bits ≠ [] := by simp [groups]

lemma mapped_injective {a b : BitVec 128} (ha : (groups a).take 6 = [0, 0, 0, 0, 0, 0xffff])
    (hb : (groups b).take 6 = [0, 0, 0, 0, 0, 0xffff])
    (h : v4Chars (BitVec.ofNat 32 a.toNat) = v4Chars (BitVec.ofNat 32 b.toNat)) : a = b := by
  have hhigh : ∀ c : BitVec 128, (groups c).take 6 = [0, 0, 0, 0, 0, 0xffff] → c.toNat / 2 ^ 32 = 0xffff := by
    intro c hc
    have hplaces := Numeric.foldl_places 65536 8 c.toNat (show 6 ≤ 8 by decide)
    rw [show ((List.range 6).map fun i => c.toNat / 65536 ^ (8 - 1 - i) % 65536) = (groups c).take 6 from rfl, hc,
      Nat.mod_eq_of_lt (Nat.div_lt_of_lt_mul (c.isLt.trans_eq (by norm_num)))] at hplaces
    exact hplaces.symm
  have hlow := congrArg BitVec.toNat (v4Chars_injective h)
  rw [BitVec.toNat_ofNat, BitVec.toNat_ofNat] at hlow
  have hhighs := (hhigh a ha).trans (hhigh b hb).symm
  refine BitVec.eq_of_toNat_eq ?_
  rw [← Nat.div_add_mod a.toNat (2 ^ 32), ← Nat.div_add_mod b.toNat (2 ^ 32), hhighs, hlow]

lemma dot_mem_mapped (bits : BitVec 32) : '.' ∈ mappedPrefix ++ v4Chars bits :=
  List.mem_append_right _ (dot_mem_v4Chars bits)

lemma dot_not_mem_compressed (front back : List Nat) : '.' ∉ groupChars front ++ ':' :: ':' :: groupChars back := by
  simp [not_mem_groupChars (show NoDigit '.' by decide)]

lemma dot_not_mem_full (gs : List Nat) : '.' ∉ groupChars gs := not_mem_groupChars (by decide) (by decide) gs

lemma compressed_ne_full {front back gs : List Nat} (hgs : gs ≠ []) :
    groupChars front ++ ':' :: ':' :: groupChars back ≠ groupChars gs := by
  intro h
  have hempty : [] ∈ Http.splitAt ':' (groupChars gs) := by
    rw [← h, Http.splitAt_append, Http.splitAt_cons_self]
    exact List.mem_append_right _ List.mem_cons_self
  rw [splitAt_groupChars hgs] at hempty
  cases nonempty_numerals gs [] hempty

lemma compressed_injective {a b : BitVec 128} {front zeros back front' zeros' back'}
    (ha : groups a = front ++ List.replicate zeros 0 ++ back) (hb : groups b = front' ++ List.replicate zeros' 0 ++ back')
    (h : groupChars front ++ ':' :: ':' :: groupChars back = groupChars front' ++ ':' :: ':' :: groupChars back') :
    a = b := by
  obtain ⟨hfront, hback⟩ := parts_compressed front back
  obtain ⟨hfront', hback'⟩ := parts_compressed front' back'
  rw [h] at hfront hback
  obtain rfl := numerals_injective (hfront.symm.trans hfront')
  obtain rfl := numerals_injective (List.reverse_injective (hback.symm.trans hback'))
  -- eight groups leave one number of zeros
  have hlength := (groups_length a).trans (groups_length b).symm
  rw [ha, hb] at hlength
  simp only [List.length_append, List.length_replicate] at hlength
  obtain rfl : zeros = zeros' := by omega
  exact groups_injective (ha.trans hb.symm)

lemma Written.unique {a b : BitVec 128} {cs cs' : List Char} (ha : Written a cs) (hb : Written b cs') (h : cs = cs') :
    a = b := by
  cases ha with
  | mapped ha =>
    cases hb with
    | mapped hb => exact mapped_injective ha hb (List.append_cancel_left h)
    | compressed hb => exact absurd (h ▸ dot_mem_mapped _) (dot_not_mem_compressed _ _)
    | full => exact absurd (h ▸ dot_mem_mapped _) (dot_not_mem_full _)
  | compressed ha =>
    cases hb with
    | mapped hb => exact absurd (h ▸ dot_mem_mapped _) (dot_not_mem_compressed _ _)
    | compressed hb => exact compressed_injective ha hb h
    | full => exact absurd h (compressed_ne_full (groups_ne_nil b))
  | full =>
    cases hb with
    | mapped hb => exact absurd (h ▸ dot_mem_mapped _) (dot_not_mem_full _)
    | compressed hb => exact absurd h.symm (compressed_ne_full (groups_ne_nil a))
    | full =>
      have hparts := congrArg (Http.splitAt ':') h
      rw [splitAt_groupChars (groups_ne_nil a), splitAt_groupChars (groups_ne_nil b)] at hparts
      exact groups_injective (numerals_injective hparts)

lemma v6Chars_injective : Function.Injective v6Chars := fun a b h => (written a).unique (written b) h

lemma Written.colon_mem {bits : BitVec 128} {cs : List Char} (h : Written bits cs) : ':' ∈ cs := by
  cases h with
  | mapped front => exact List.mem_append_left _ (by decide)
  | compressed around => exact List.mem_append_right _ List.mem_cons_self
  | full =>
    by_contra h
    have hparts := splitAt_groupChars (groups_ne_nil bits)
    rw [Http.splitAt_of_not_mem h] at hparts
    have hlength := congrArg List.length hparts
    rw [List.length_map, groups_length] at hlength
    cases hlength

lemma Written.not_mem {bits : BitVec 128} {cs : List Char} (h : Written bits cs) {c : Char} (hc : NoDigit c)
    (hcolon : c ≠ ':') (hdot : c ≠ '.') : c ∉ cs := by
  have hgroups := not_mem_groupChars hc hcolon
  cases h with
  | mapped front =>
    intro h
    rcases List.mem_append.mp h with h | h
    · have hf : c ≠ 'f' := fun h => hc 15 (by decide) h.symm
      simp [mappedPrefix, hcolon, hf] at h
    · exact not_mem_v4Chars hc hdot _ h
  | compressed around => simp [hgroups, hcolon]
  | full => exact hgroups _

/-! ### All addresses -/

/-- Different addresses have different texts. -/
theorem text_injective : Function.Injective text := by
  have hversions : ∀ a b, v4Chars a ≠ v6Chars b := fun a b h =>
    not_mem_v4Chars (by decide) (by decide) a (h ▸ (written b).colon_mem)
  rintro (a | a) (b | b) h
  · rw [v4Chars_injective (String.ofList_injective h)]
  · exact absurd (String.ofList_injective h) (hversions a b)
  · exact absurd (String.ofList_injective h).symm (hversions b a)
  · rw [v6Chars_injective (String.ofList_injective h)]

/-- A character that is no hexadecimal digit, no dot and no colon is in no address. -/
lemma not_mem_text {c : Char} (hc : NoDigit c) (hcolon : c ≠ ':') (hdot : c ≠ '.') (a : Address) :
    c ∉ a.text.toList := by
  cases a with
  | v4 bits =>
    rw [text, String.toList_ofList]
    exact not_mem_v4Chars hc hdot bits
  | v6 bits =>
    rw [text, String.toList_ofList]
    exact (written bits).not_mem hc hcolon hdot

end Address
end CompletionGateway
