import CompletionGateway.Proofs.Text.Utf8

/-! The size of a text that is made of any bytes. Its characters take as many bytes as they were read from, but each
ill-formed part, which is of three bytes at most, has become a character of three bytes. -/
namespace CompletionGateway.Text.Utf8

/-! ### Reading front by front -/

lemma scan_go_append (bytes : List UInt8) (xs ys : List (Option Char)) :
    scan.go bytes (xs ++ ys) = ys.reverse ++ scan.go bytes xs := by
  induction bytes, xs using scan.go.induct with
  | case1 xs => simp [scan.go]
  | case2 a rest xs c n hfront ih =>
    rw [scan.go, scan.go, hfront]
    exact ih
  | case3 a rest xs n hfront ih =>
    rw [scan.go, scan.go, hfront]
    exact ih

lemma scan_nil : scan [] = [] := by simp [scan, scan.go]

lemma scan_scalar {a : UInt8} {rest : List UInt8} {c : Char} {n : Nat} (h : front a rest = .scalar c n) :
    scan (a :: rest) = some c :: scan (rest.drop n) := by
  rw [scan, scan.go, h]
  exact scan_go_append _ [] [some c]

lemma scan_illFormed {a : UInt8} {rest : List UInt8} {n : Nat} (h : front a rest = .illFormed n) :
    scan (a :: rest) = none :: scan (rest.drop n) := by
  rw [scan, scan.go, h]
  exact scan_go_append _ [] [none]

/-- An ill-formed part is of three bytes at most. -/
lemma front_illFormed {a : UInt8} {rest : List UInt8} {n : Nat} (h : front a rest = .illFormed n) :
    n ≤ rest.length ∧ n ≤ 2 := by
  unfold front at h
  repeat' split at h
  all_goals try cases h
  all_goals simp

/-- The character of a value in the range of so many bytes. -/
def Takes (v n : Nat) : Prop :=
  n = 1 ∧ v < 0x80 ∨ n = 2 ∧ 0x80 ≤ v ∧ v < 0x800 ∨
    n = 3 ∧ 0x800 ≤ v ∧ (v < 0xD800 ∨ 0xDFFF < v ∧ v < 0x10000) ∨ n = 4 ∧ 0x10000 ≤ v ∧ v < 0x110000

lemma Takes.utf8Size {v n : Nat} (h : Takes v n) : (Char.ofNat v).utf8Size = n := by
  unfold Takes at h
  have hvalid : v.isValidChar := by
    unfold Nat.isValidChar
    omega
  have hv : (Char.ofNat v).val.toNat = v := (Char.toNat_ofNat v).trans (if_pos hvalid)
  simp only [Char.utf8Size, UInt32.le_iff_toNat_le, hv, UInt32.toNat_ofNatLT]
  split_ifs <;> omega

lemma second_of_three {a b : UInt8} (h : isSecondOfThree a b = true) : 0x80 ≤ b.toNat ∧ b.toNat ≤ 0xBF ∧
    (a.toNat = 0xE0 → 0xA0 ≤ b.toNat) ∧ (a.toNat = 0xED → b.toNat ≤ 0x9F) := by
  simp only [isSecondOfThree, isTail, ← UInt8.toNat_inj, UInt8.le_iff_toNat_le, UInt8.reduceToNat] at h
  split_ifs at h <;> simp only [Bool.and_eq_true, decide_eq_true_eq] at h <;> omega

lemma second_of_four {a b : UInt8} (h : isSecondOfFour a b = true) : 0x80 ≤ b.toNat ∧ b.toNat ≤ 0xBF ∧
    (a.toNat = 0xF0 → 0x90 ≤ b.toNat) ∧ (a.toNat = 0xF4 → b.toNat ≤ 0x8F) := by
  simp only [isSecondOfFour, isTail, ← UInt8.toNat_inj, UInt8.le_iff_toNat_le, UInt8.reduceToNat] at h
  split_ifs at h <;> simp only [Bool.and_eq_true, decide_eq_true_eq] at h <;> omega

/-- A character is read from as many bytes as it takes. -/
lemma front_scalar {a : UInt8} {rest : List UInt8} {c : Char} {n : Nat} (h : front a rest = .scalar c n) :
    n ≤ rest.length ∧ c.utf8Size = n + 1 := by
  have ha := a.toNat_lt
  simp only [front, UInt8.lt_iff_toNat_lt, UInt8.reduceToNat] at h
  repeat' split at h
  all_goals cases h
  all_goals refine ⟨by simp, Takes.utf8Size ?_⟩
  all_goals unfold Takes
  · omega
  · unfold tailBits
    omega
  · rename_i hsecond _ _ _ _
    have hrange := second_of_three hsecond
    unfold tailBits
    omega
  · rename_i hsecond _ _ _ _ _ _ _
    have hrange := second_of_four hsecond
    unfold tailBits
    omega

/-! ### Sizes -/

/-- The sizes of the ill-formed parts of a byte sequence, in order. -/
def flaws : List UInt8 → List Nat
  | [] => []
  | a :: rest =>
    match front a rest with
    | .scalar _ n => flaws (rest.drop n)
    | .illFormed n => (n + 1) :: flaws (rest.drop n)
termination_by bytes => bytes.length
decreasing_by all_goals simp only [List.length_cons, List.length_drop]; omega

/-- The bytes that a text has more than it was made of. -/
def growth (bytes : List UInt8) : Nat := ((flaws bytes).map (3 - ·)).sum

lemma flaws_scalar {a : UInt8} {rest : List UInt8} {c : Char} {n : Nat} (h : front a rest = .scalar c n) :
    flaws (a :: rest) = flaws (rest.drop n) := by
  rw [flaws, h]

lemma flaws_illFormed {a : UInt8} {rest : List UInt8} {n : Nat} (h : front a rest = .illFormed n) :
    flaws (a :: rest) = (n + 1) :: flaws (rest.drop n) := by
  rw [flaws, h]

/-- What is read from bytes, front by front. -/
structure Sized (bytes : List UInt8) : Prop where
  utf8 : (encoded ((scan bytes).map (·.getD '\uFFFD'))).length = bytes.length + growth bytes
  growth : growth bytes ≤ 2 * bytes.length
  chars : (scan bytes).length ≤ bytes.length
  wellFormed : (∀ c ∈ scan bytes, c.isSome = true) → flaws bytes = []

lemma sized (bytes : List UInt8) : Sized bytes := by
  induction bytes using flaws.induct with
  | case1 => exact ⟨by simp [scan_nil, encoded, growth, flaws], by simp [growth, flaws], by simp [scan_nil], by simp [flaws]⟩
  | case2 a rest c n hfront ih =>
    obtain ⟨hn, hsize⟩ := front_scalar hfront
    have hgrowth : growth (a :: rest) = growth (rest.drop n) := by rw [growth, flaws_scalar hfront]; rfl
    obtain ⟨hutf8, hbound, hchars, hflaws⟩ := ih
    rw [List.length_drop] at hutf8 hbound hchars
    refine ⟨?_, ?_, ?_, ?_⟩
    · rw [scan_scalar hfront, List.map_cons, encoded_cons, List.length_append, hutf8, hgrowth, Option.getD_some,
        String.length_utf8EncodeChar, hsize, List.length_cons]
      omega
    · rw [hgrowth, List.length_cons]
      omega
    · rw [scan_scalar hfront, List.length_cons, List.length_cons]
      omega
    · rw [scan_scalar hfront, flaws_scalar hfront]
      exact fun hall => hflaws fun c hc => hall c (List.mem_cons_of_mem _ hc)
  | case3 a rest n hfront ih =>
    obtain ⟨hn, hthree⟩ := front_illFormed hfront
    have hgrowth : growth (a :: rest) = 2 - n + growth (rest.drop n) := by
      rw [growth, flaws_illFormed hfront, List.map_cons, List.sum_cons, growth]
      omega
    obtain ⟨hutf8, hbound, hchars, hflaws⟩ := ih
    rw [List.length_drop] at hutf8 hbound hchars
    refine ⟨?_, ?_, ?_, ?_⟩
    · rw [scan_illFormed hfront, List.map_cons, encoded_cons, List.length_append, hutf8, hgrowth, Option.getD_none,
        String.length_utf8EncodeChar, show '\uFFFD'.utf8Size = 3 from rfl, List.length_cons]
      omega
    · rw [hgrowth, List.length_cons]
      omega
    · rw [scan_illFormed hfront, List.length_cons, List.length_cons]
      omega
    · rw [scan_illFormed hfront]
      intro hall
      cases hall none List.mem_cons_self

end CompletionGateway.Text.Utf8
