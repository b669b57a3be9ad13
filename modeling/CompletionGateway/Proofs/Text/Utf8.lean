import Mathlib
import CompletionGateway.Text.Utf8

/-! A text is read back from its UTF-8 bytes, and its ASCII characters are its bytes below 128. -/
namespace CompletionGateway.Text.Utf8

/-! ### The bytes of one character -/

lemma lt_iff {n : Nat} (hn : n < 256) (k : UInt8) : UInt8.ofNat n < k ↔ n < k.toNat := by
  rw [UInt8.lt_iff_toNat_lt, UInt8.toNat_ofNat_of_lt' hn]

lemma le_iff {n : Nat} (hn : n < 256) (k : UInt8) : UInt8.ofNat n ≤ k ↔ n ≤ k.toNat := by
  rw [UInt8.le_iff_toNat_le, UInt8.toNat_ofNat_of_lt' hn]

lemma ge_iff {n : Nat} (hn : n < 256) (k : UInt8) : k ≤ UInt8.ofNat n ↔ k.toNat ≤ n := by
  rw [UInt8.le_iff_toNat_le, UInt8.toNat_ofNat_of_lt' hn]

lemma eq_iff {n : Nat} (hn : n < 256) (k : UInt8) : UInt8.ofNat n = k ↔ n = k.toNat := by
  rw [← UInt8.toNat_inj, UInt8.toNat_ofNat_of_lt' hn]

/-- A second or later byte. -/
def continuation (n : Nat) : UInt8 := UInt8.ofNat (n + 0x80)

lemma isTail_continuation {n : Nat} (hn : n < 64) : isTail (continuation n) = true := by
  have hlt : n + 0x80 < 256 := by omega
  simp only [isTail, continuation, Bool.and_eq_true, decide_eq_true_eq, ge_iff hlt, le_iff hlt, UInt8.reduceToNat]
  omega

lemma tailBits_continuation {n : Nat} (hn : n < 64) : tailBits (continuation n) = n := by
  rw [tailBits, continuation, UInt8.toNat_ofNat_of_lt' (show n + 0x80 < 256 by omega)]
  omega

lemma front_one {n : Nat} (hn : n < 0x80) (rest : List UInt8) :
    front (UInt8.ofNat n) rest = .scalar (Char.ofNat n) 0 := by
  have hlt : n < 256 := by omega
  unfold front
  simp only [lt_iff hlt, UInt8.reduceToNat, hn, if_true, UInt8.toNat_ofNat_of_lt' hlt]

lemma front_two {a b : Nat} (ha : 2 ≤ a) (ha' : a < 32) (hb : b < 64) (rest : List UInt8) :
    front (UInt8.ofNat (a + 0xC0)) (continuation b :: rest) = .scalar (Char.ofNat (a * 64 + b)) 1 := by
  have hlt : a + 0xC0 < 256 := by omega
  have hbits : (UInt8.ofNat (a + 0xC0)).toNat % 32 = a := by
    rw [UInt8.toNat_ofNat_of_lt' hlt]
    omega
  unfold front
  simp only [lt_iff hlt, UInt8.reduceToNat, show ¬ a + 192 < 128 by omega, show ¬ a + 192 < 194 by omega,
    show a + 192 < 224 by omega, if_false, if_true, isTail_continuation hb, tailBits_continuation hb, hbits]

lemma front_three {a b c : Nat} (ha : a < 16) (hb : b < 64) (hc : c < 64) (hlong : 0x20 ≤ a * 64 + b)
    (hscalar : a * 64 + b < 0x360 ∨ 0x380 ≤ a * 64 + b) (rest : List UInt8) :
    front (UInt8.ofNat (a + 0xE0)) (continuation b :: continuation c :: rest) =
      .scalar (Char.ofNat (a * 4096 + b * 64 + c)) 2 := by
  have hlt : a + 0xE0 < 256 := by omega
  have hbits : (UInt8.ofNat (a + 0xE0)).toNat % 16 = a := by
    rw [UInt8.toNat_ofNat_of_lt' hlt]
    omega
  have hsecond : isSecondOfThree (UInt8.ofNat (a + 0xE0)) (continuation b) = true := by
    have hlt' : b + 0x80 < 256 := by omega
    unfold isSecondOfThree
    simp only [eq_iff hlt, continuation, ge_iff hlt', le_iff hlt', UInt8.reduceToNat]
    split
    · simp only [Bool.and_eq_true, decide_eq_true_eq]
      omega
    · split
      · simp only [Bool.and_eq_true, decide_eq_true_eq]
        omega
      · exact isTail_continuation hb
  unfold front
  simp only [lt_iff hlt, UInt8.reduceToNat, show ¬ a + 224 < 128 by omega, show ¬ a + 224 < 194 by omega,
    show ¬ a + 224 < 224 by omega, show a + 224 < 240 by omega, if_false, if_true, hsecond, isTail_continuation hc,
    tailBits_continuation hb, tailBits_continuation hc, hbits]

lemma front_four {a b c d : Nat} (ha : a < 5) (hb : b < 64) (hc : c < 64) (hd : d < 64) (hlong : 0x10 ≤ a * 64 + b)
    (hscalar : a * 64 + b < 0x110) (rest : List UInt8) :
    front (UInt8.ofNat (a + 0xF0)) (continuation b :: continuation c :: continuation d :: rest) =
      .scalar (Char.ofNat (a * 262144 + b * 4096 + c * 64 + d)) 3 := by
  have hlt : a + 0xF0 < 256 := by omega
  have hbits : (UInt8.ofNat (a + 0xF0)).toNat % 8 = a := by
    rw [UInt8.toNat_ofNat_of_lt' hlt]
    omega
  have hsecond : isSecondOfFour (UInt8.ofNat (a + 0xF0)) (continuation b) = true := by
    have hlt' : b + 0x80 < 256 := by omega
    unfold isSecondOfFour
    simp only [eq_iff hlt, continuation, ge_iff hlt', le_iff hlt', UInt8.reduceToNat]
    split
    · simp only [Bool.and_eq_true, decide_eq_true_eq]
      omega
    · split
      · simp only [Bool.and_eq_true, decide_eq_true_eq]
        omega
      · exact isTail_continuation hb
  unfold front
  simp only [lt_iff hlt, UInt8.reduceToNat, show ¬ a + 240 < 128 by omega, show ¬ a + 240 < 194 by omega,
    show ¬ a + 240 < 224 by omega, show ¬ a + 240 < 240 by omega, show a + 240 < 245 by omega, if_false, if_true,
    hsecond, isTail_continuation hc, isTail_continuation hd, tailBits_continuation hb, tailBits_continuation hc,
    tailBits_continuation hd, hbits]

/-- The bytes of a character are read as that character, whatever follows. -/
lemma front_encoded (c : Char) (rest : List UInt8) :
    ∃ a more, String.utf8EncodeChar c = a :: more ∧ front a (more ++ rest) = .scalar c more.length := by
  have hv : c.toNat < 0xD800 ∨ 0xDFFF < c.toNat ∧ c.toNat < 0x110000 := c.valid
  have hc : Char.ofNat c.toNat = c := Char.ofNat_toNat c
  generalize hn : c.toNat = n at hv hc
  unfold String.utf8EncodeChar
  rw [show c.val.toNat = n from hn]
  dsimp only
  split
  · rename_i h
    exact ⟨_, [], rfl, by rw [List.nil_append, front_one (by omega), hc]; rfl⟩
  split
  · refine ⟨_, [_], rfl, ?_⟩
    have h := front_two (a := n / 64 % 32) (b := n % 64) (by omega) (by omega) (by omega) rest
    rw [show n / 64 % 32 * 64 + n % 64 = n by omega, hc] at h
    exact h
  split
  · refine ⟨_, [_, _], rfl, ?_⟩
    have h := front_three (a := n / 4096 % 16) (b := n / 64 % 64) (c := n % 64) (by omega) (by omega) (by omega)
      (by omega) (by omega) rest
    rw [show n / 4096 % 16 * 4096 + n / 64 % 64 * 64 + n % 64 = n by omega, hc] at h
    exact h
  · refine ⟨_, [_, _, _], rfl, ?_⟩
    have h := front_four (a := n / 262144 % 8) (b := n / 4096 % 64) (c := n / 64 % 64) (d := n % 64) (by omega)
      (by omega) (by omega) (by omega) (by omega) (by omega) rest
    rw [show n / 262144 % 8 * 262144 + n / 4096 % 64 * 4096 + n / 64 % 64 * 64 + n % 64 = n by omega, hc] at h
    exact h

/-! ### Whole texts -/

/-- The bytes of a list of characters. -/
def encoded (cs : List Char) : List UInt8 := cs.flatMap String.utf8EncodeChar

@[simp] lemma encoded_nil : encoded [] = [] := rfl

lemma encoded_cons (c : Char) (cs : List Char) : encoded (c :: cs) = String.utf8EncodeChar c ++ encoded cs := rfl

@[simp] lemma encoded_append (cs ds : List Char) : encoded (cs ++ ds) = encoded cs ++ encoded ds :=
  List.flatMap_append

lemma scan_go_encoded (cs : List Char) (acc : List (Option Char)) :
    scan.go (encoded cs) acc = acc.reverse ++ cs.map some := by
  induction cs generalizing acc with
  | nil => simp [scan.go]
  | cons c cs ih =>
    obtain ⟨a, more, hmore, hfront⟩ := front_encoded c (encoded cs)
    rw [encoded_cons, hmore, List.cons_append, scan.go, hfront]
    simp [ih]

lemma scan_encoded (cs : List Char) : scan (encoded cs) = cs.map some := by simp [scan, scan_go_encoded]

theorem decode?_encoded (cs : List Char) : decode? (encoded cs) = some (String.ofList cs) := by
  simp [decode?, scan_encoded, Function.comp_def]

theorem decodeLossy_encoded (cs : List Char) : decodeLossy (encoded cs) = String.ofList cs := by
  simp [decodeLossy, scan_encoded, Function.comp_def]

/-! ### ASCII -/

lemma encoded_ascii {c : Char} (h : c.toNat < 0x80) : String.utf8EncodeChar c = [UInt8.ofNat c.toNat] := by
  unfold String.utf8EncodeChar
  exact if_pos (Nat.le_of_lt_succ h)

lemma encoded_cons_ascii {c : Char} (h : c.toNat < 0x80) (cs : List Char) :
    encoded (c :: cs) = UInt8.ofNat c.toNat :: encoded cs := by rw [encoded_cons, encoded_ascii h]; rfl

lemma length_le_encoded (cs : List Char) : cs.length ≤ (encoded cs).length := by
  induction cs with
  | nil => simp
  | cons c cs ih =>
    have hpos : 0 < (String.utf8EncodeChar c).length := by
      rw [String.length_utf8EncodeChar]
      exact c.utf8Size_pos
    rw [encoded_cons, List.length_append, List.length_cons]
    omega

/-- All bytes of a character beyond ASCII are beyond ASCII. -/
lemma le_of_mem_encoded {c : Char} (h : 0x80 ≤ c.toNat) {b : UInt8} (hb : b ∈ String.utf8EncodeChar c) :
    0x80 ≤ b.toNat := by
  have hv : c.toNat < 0x110000 := by
    have hv : c.toNat < 0xD800 ∨ 0xDFFF < c.toNat ∧ c.toNat < 0x110000 := c.valid
    omega
  unfold String.utf8EncodeChar at hb
  rw [show c.val.toNat = c.toNat from rfl] at hb
  generalize c.toNat = n at h hv hb
  dsimp only at hb
  rw [if_neg (by omega)] at hb
  split at hb
  · simp only [List.mem_cons, List.not_mem_nil, or_false] at hb
    rcases hb with rfl | rfl <;> rw [UInt8.toNat_ofNat_of_lt' (by show _ < 256; omega)] <;> omega
  · split at hb
    · simp only [List.mem_cons, List.not_mem_nil, or_false] at hb
      rcases hb with rfl | rfl | rfl <;> rw [UInt8.toNat_ofNat_of_lt' (by show _ < 256; omega)] <;> omega
    · simp only [List.mem_cons, List.not_mem_nil, or_false] at hb
      rcases hb with rfl | rfl | rfl | rfl <;> rw [UInt8.toNat_ofNat_of_lt' (by show _ < 256; omega)] <;> omega

end Utf8

lemma utf8_eq_encoded (s : String) : utf8 s = Utf8.encoded s.toList := rfl

@[simp] lemma utf8_ofList (cs : List Char) : utf8 (String.ofList cs) = Utf8.encoded cs := by
  rw [utf8_eq_encoded, String.toList_ofList]

@[simp] theorem decode?_utf8 (s : String) : Utf8.decode? (utf8 s) = some s := by
  rw [utf8_eq_encoded, Utf8.decode?_encoded, String.ofList_toList]

@[simp] theorem decodeLossy_utf8 (s : String) : Utf8.decodeLossy (utf8 s) = s := by
  rw [utf8_eq_encoded, Utf8.decodeLossy_encoded, String.ofList_toList]

theorem utf8_injective : Function.Injective utf8 := by
  intro s s' h
  have hs := decode?_utf8 s
  rw [h, decode?_utf8] at hs
  exact (Option.some.inj hs).symm

end CompletionGateway.Text
