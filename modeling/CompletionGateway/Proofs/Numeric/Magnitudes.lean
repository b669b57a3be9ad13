import Mathlib
import CompletionGateway.Numeric.Decimal

/-! How large rounded numbers and shortest decimals can be. -/
namespace CompletionGateway.Numeric

/-! ### Rounding -/

lemma roundHalfEven_le (num den : Nat) : roundHalfEven num den ≤ num / den + 1 := by
  unfold roundHalfEven
  dsimp only
  split
  · omega
  · split
    · omega
    · omega

namespace Format

lemma exponentFor_le {num den : Nat} {k : Int} (hk : -1074 ≤ k) (h : (num.log2 : Int) - den.log2 ≤ k + 52) :
    double.exponentFor num den ≤ k := by
  have hprecision : (double.precision : Int) = 53 := rfl
  refine max_le hk ?_
  split <;> omega

lemma le_exponentFor (num den : Nat) : (num.log2 : Int) - den.log2 - 53 ≤ double.exponentFor num den := by
  have hprecision : (double.precision : Int) = 53 := rfl
  refine le_max_of_le_right ?_
  split <;> omega

lemma log2_le {n k : Nat} (h : n ≤ 2 ^ k) : n.log2 ≤ k := by
  by_cases hn : n = 0
  · subst hn
    exact Nat.zero_le k
  · exact (Nat.pow_le_pow_iff_right (by decide)).mp ((Nat.log2_self_le hn).trans h)

/-- A quotient below 2 ^ 1022 is rounded to a finite number. -/
lemma round_finite (s : Bool) {num den : Nat} (h : num.log2 ≤ den.log2 + 1022) :
    ∃ m e, double.round s num den = .finite s m e := by
  have he : double.exponentFor num den ≤ 970 := exponentFor_le (by omega) (by omega)
  unfold round
  split
  · exact ⟨0, _, rfl⟩
  · extract_lets e x m carried m' e'
    have he' : e' ≤ double.maxExponent := by
      show (if carried = true then e + 1 else e) ≤ 971
      split <;> omega
    exact ⟨m', e', if_neg (Int.not_lt.mpr he')⟩

/-- What a 64-bit word is rounded to. -/
lemma round_word (s : Bool) {n : Nat} (h : n < 2 ^ 64) :
    ∃ m e, double.round s n 1 = .finite s m e ∧ m ≤ 2 ^ 118 ∧ e ≤ 13 := by
  have hlog : n.log2 ≤ 64 := log2_le h.le
  have hone : Nat.log2 1 = 0 := by decide
  have he : double.exponentFor n 1 ≤ 12 := exponentFor_le (by omega) (by omega)
  have he' := le_exponentFor n 1
  have hscaled : (scaleDown n 1 (double.exponentFor n 1)).1 < 2 ^ 117 := by
    unfold scaleDown
    split
    · exact h.trans (by norm_num)
    · have hpower : 2 ^ (-double.exponentFor n 1).toNat ≤ 2 ^ 53 := Nat.pow_le_pow_right (by omega) (by omega)
      calc n * 2 ^ (-double.exponentFor n 1).toNat ≤ n * 2 ^ 53 := Nat.mul_le_mul_left n hpower
        _ < 2 ^ 64 * 2 ^ 53 := Nat.mul_lt_mul_of_pos_right h (by norm_num)
        _ = 2 ^ 117 := by norm_num
  unfold round
  split
  · exact ⟨0, _, rfl, by norm_num, by decide⟩
  · extract_lets e x m carried m' e'
    have hm : m ≤ 2 ^ 118 := by
      have hquotient : m ≤ x.1 / x.2 + 1 := roundHalfEven_le x.1 x.2
      have hle : x.1 / x.2 ≤ x.1 := Nat.div_le_self _ _
      have hx : x.1 < 2 ^ 117 := hscaled
      have hpower : (2 : Nat) ^ 117 ≤ 2 ^ 118 := Nat.pow_le_pow_right (by omega) (by omega)
      omega
    have hm' : m' ≤ 2 ^ 118 := by
      show (if carried = true then 2 ^ 52 else m) ≤ 2 ^ 118
      split
      · norm_num
      · exact hm
    have he'' : e' ≤ 13 := by
      show (if carried = true then e + 1 else e) ≤ 13
      split <;> omega
    exact ⟨m', e', if_neg (Int.not_lt.mpr (he''.trans (by decide))), hm', he''⟩

/-- The product of two numbers that are not large is finite. -/
lemma mulFinite_finite (s : Bool) {m m' : Nat} {x x' : Int} (hm : m ≤ 2 ^ 118) (hm' : m' ≤ 2 ^ 53) (hx : x + x' ≤ 43) :
    ∃ m'' x'', double.mulFinite s m x m' x' = .finite s m'' x'' := by
  have hproduct : m * m' ≤ 2 ^ 171 := by
    calc m * m' ≤ 2 ^ 118 * 2 ^ 53 := Nat.mul_le_mul hm hm'
      _ = 2 ^ 171 := by norm_num
  unfold mulFinite
  dsimp only
  split
  · have hpower : 2 ^ (x + x').toNat ≤ 2 ^ 43 := Nat.pow_le_pow_right (by omega) (by omega)
    have hscaled : m * m' * 2 ^ (x + x').toNat ≤ 2 ^ 214 := by
      calc m * m' * 2 ^ (x + x').toNat ≤ 2 ^ 171 * 2 ^ 43 := Nat.mul_le_mul hproduct hpower
        _ = 2 ^ 214 := by norm_num
    exact round_finite s ((log2_le hscaled).trans (by omega))
  · exact round_finite s ((log2_le hproduct).trans (by omega))

end Format

/-! ### Shortest decimals -/

namespace Decimal

/-- The number that a decimal is. -/
def value (d : Decimal) : ℚ := d.digits * (10 : ℚ) ^ d.exponent

lemma power_pos {base : Nat} (hbase : 0 < base) (e : Int) : 0 < (power base e).1 ∧ 0 < (power base e).2 := by
  unfold power
  split
  · exact ⟨Nat.pow_pos hbase, Nat.one_pos⟩
  · exact ⟨Nat.one_pos, Nat.pow_pos hbase⟩

lemma power_eq {base : Nat} (hbase : 0 < base) (e : Int) :
    ((power base e).1 : ℚ) / (power base e).2 = (base : ℚ) ^ e := by
  have hne : (base : ℚ) ≠ 0 := Nat.cast_ne_zero.mpr hbase.ne'
  unfold power
  split
  · rename_i he
    obtain ⟨n, rfl⟩ := Int.eq_ofNat_of_zero_le he
    simp
  · rename_i he
    obtain ⟨n, hn⟩ := Int.eq_ofNat_of_zero_le (show 0 ≤ -e by omega)
    obtain rfl : e = -(n : Int) := by omega
    simp

/-- A decimal that reads back as a number lies no further above it than half the way to the next one. -/
lemma onGrid?_value {f : Format} {tie : Tie} {m : Nat} {e : Int} {count : Nat} {d : Decimal}
    (h : onGrid? f tie m e count = some d) : d.value ≤ (4 * m + 2) * (2 : ℚ) ^ (e - 2) := by
  unfold onGrid? at h
  extract_lets v g ten unit lhs rhs n within lo hi below above preferHi at h
  have hvalue : ∀ c, within c = true → value ⟨c, g⟩ ≤ (4 * m + 2) * (2 : ℚ) ^ (e - 2) := by
    intro c hc
    have hle : c * lhs ≤ (4 * m + 2) * rhs := by
      simp only [within] at hc
      split at hc
      · exact (by simpa using hc : n.low * rhs ≤ c * lhs ∧ c * lhs ≤ n.high * rhs).2
      · exact (by simpa using hc : n.low * rhs < c * lhs ∧ c * lhs < n.high * rhs).2.le
    have hten : 0 < (ten.2 : ℚ) := Nat.cast_pos.mpr (power_pos (by decide) g).2
    have hunit : 0 < (unit.2 : ℚ) := Nat.cast_pos.mpr (power_pos (by decide) (e - 2)).2
    have hle' : (c : ℚ) * (ten.1 * unit.2) ≤ (4 * m + 2) * (unit.1 * ten.2) := by exact_mod_cast hle
    rw [value, show ((10 : ℚ) ^ g) = ten.1 / ten.2 from (power_eq (show 0 < 10 by decide) g).symm,
      show ((2 : ℚ) ^ (e - 2)) = unit.1 / unit.2 from (power_eq (show 0 < 2 by decide) (e - 2)).symm]
    rw [mul_div_assoc', mul_div_assoc', div_le_div_iff₀ hten hunit, mul_assoc, mul_assoc]
    exact hle'
  split at h
  · rename_i hlo
    simp only [Bool.and_eq_true, decide_eq_true_eq] at hlo
    split at h
    · rename_i hhi
      obtain rfl := Option.some.inj h
      exact hvalue hi (by simp only [Bool.and_eq_true] at hhi; exact hhi.1)
    · obtain rfl := Option.some.inj h
      exact hvalue lo hlo.1
  · split at h
    · rename_i hhi
      obtain rfl := Option.some.inj h
      exact hvalue hi hhi
    · cases h

lemma strip_value (n : Nat) (d : Decimal) : (strip n d).value = d.value := by
  induction n generalizing d with
  | zero => rfl
  | succ n ih =>
    unfold strip
    split
    · rename_i hd
      have hdigits : (d.digits : ℚ) = (d.digits / 10 : Nat) * 10 := by
        have h : d.digits = d.digits / 10 * 10 := by omega
        exact_mod_cast h
      rw [ih, value, value, hdigits, zpow_add_one₀ (by norm_num)]
      ring
    · rfl

/-- The shortest decimal of a number below 2 ^ 75 is no larger than that. -/
lemma shortest_value {f : Format} {tie : Tie} {m : Nat} {e : Int} (hm : m < 2 ^ 53) (he : e ≤ 22) :
    (shortest f tie m e).value ≤ 2 ^ 75 := by
  unfold shortest
  split
  · rename_i d hd
    obtain ⟨i, -, hi⟩ := List.exists_of_findSome?_eq_some hd
    rw [strip_value]
    have hmantissa : (4 * m + 2 : ℚ) ≤ 2 ^ 55 := by
      have h : 4 * m + 2 ≤ 2 ^ 55 := by omega
      exact_mod_cast h
    have hunit : (2 : ℚ) ^ (e - 2) ≤ 2 ^ (20 : Int) := zpow_le_zpow_right₀ (by norm_num) (by omega)
    calc d.value ≤ (4 * m + 2) * (2 : ℚ) ^ (e - 2) := onGrid?_value hi
      _ ≤ 2 ^ 55 * 2 ^ (20 : Int) := mul_le_mul hmantissa hunit (by positivity) (by positivity)
      _ = 2 ^ 75 := by norm_num
  · have h : (m : ℚ) ≤ 2 ^ 75 := by exact_mod_cast hm.le.trans (by norm_num)
    simpa [value] using h

lemma pow_le_of_digitCount {n : Nat} (hn : n ≠ 0) : 10 ^ (digitCount n - 1) ≤ n := by
  by_cases hone : digitCount n = 1
  · rw [hone]
    exact Nat.one_le_iff_ne_zero.mpr hn
  · have hpos : 0 < digitCount n := Nat.length_toDigits_pos
    by_contra hlt
    have hcount : digitCount n ≤ digitCount n - 1 :=
      (Nat.length_toDigits_le_iff (by decide) (by omega)).mpr (Nat.not_le.mp hlt)
    omega

/-- With one digit in front of the point, it has a decimal exponent of at most 22. -/
lemma scientific_le {d : Decimal} (hd : d.digits ≠ 0) (h : d.value ≤ 2 ^ 75) : d.scientific ≤ 22 := by
  have hpos : 0 < digitCount d.digits := Nat.length_toDigits_pos
  have hdigits : ((10 : ℚ) ^ (digitCount d.digits - 1)) ≤ d.digits := by exact_mod_cast pow_le_of_digitCount hd
  have hpower : (10 : ℚ) ^ d.scientific < 10 ^ (23 : Int) := by
    calc (10 : ℚ) ^ d.scientific = 10 ^ (digitCount d.digits - 1) * 10 ^ d.exponent := by
          rw [← zpow_natCast, ← zpow_add₀ (by norm_num), scientific]
          congr 1
          omega
      _ ≤ d.value := mul_le_mul_of_nonneg_right hdigits (by positivity)
      _ ≤ 2 ^ 75 := h
      _ < 10 ^ (23 : Int) := by norm_num
  have hlt := (zpow_lt_zpow_iff_right₀ (by norm_num)).mp hpower
  omega

end Decimal
end CompletionGateway.Numeric
