import Mathlib

/-! Numerals by their places: digits put together again give the number, and a numeral of radix up to sixteen tells its
number. -/
namespace CompletionGateway.Numeric

/-- The first digits of a number, put together again. -/
lemma foldl_places (radix width n : Nat) {k : Nat} (hk : k ≤ width) :
    ((List.range k).map fun i => n / radix ^ (width - 1 - i) % radix).foldl (fun n d => n * radix + d) 0 =
      n / radix ^ (width - k) % radix ^ k := by
  induction k with
  | zero => simp [Nat.mod_one]
  | succ k ih =>
    rw [List.range_succ, List.map_append, List.foldl_append, ih (by omega)]
    have hpow : radix ^ (width - k) = radix ^ (width - 1 - k) * radix := by
      rw [← pow_succ]
      congr 1
      omega
    rw [show width - (k + 1) = width - 1 - k by omega, hpow, ← Nat.div_div_eq_div_mul, pow_succ']
    simp only [List.map_cons, List.map_nil, List.foldl_cons, List.foldl_nil]
    rw [Nat.mod_mul, Nat.mul_comm, Nat.add_comm]

/-- A number of so many digits is all of them put together. -/
lemma foldl_all_places {radix width n : Nat} (hn : n < radix ^ width) :
    ((List.range width).map fun i => n / radix ^ (width - 1 - i) % radix).foldl (fun n d => n * radix + d) 0 = n := by
  rw [foldl_places radix width n (le_refl width), Nat.sub_self, pow_zero, Nat.div_one, Nat.mod_eq_of_lt hn]

/-! ### Numerals -/

lemma digitChar_injective : ∀ a < 16, ∀ b < 16, Nat.digitChar a = Nat.digitChar b → a = b := by decide

/-- A numeral tells its number. -/
lemma toDigits_injective {radix : Nat} (h : 1 < radix) (h' : radix ≤ 16) : Function.Injective (Nat.toDigits radix) := by
  intro m
  induction m using Nat.strong_induction_on with
  | _ m ih =>
    intro n heq
    have hlast : ∀ m, m % radix < 16 := fun m => (Nat.mod_lt m (by omega)).trans_le h'
    rcases Nat.lt_or_ge m radix with hm | hm <;> rcases Nat.lt_or_ge n radix with hn | hn
    · rw [Nat.toDigits_of_lt_base hm, Nat.toDigits_of_lt_base hn] at heq
      exact digitChar_injective m (by omega) n (by omega) (List.singleton_inj.mp heq)
    · rw [Nat.toDigits_of_lt_base hm, Nat.toDigits_of_base_le h hn] at heq
      exact absurd (List.append_eq_singleton_iff.mp heq.symm) (by simp [Nat.toDigits_ne_nil])
    · rw [Nat.toDigits_of_base_le h hm, Nat.toDigits_of_lt_base hn] at heq
      exact absurd (List.append_eq_singleton_iff.mp heq) (by simp [Nat.toDigits_ne_nil])
    · rw [Nat.toDigits_of_base_le h hm, Nat.toDigits_of_base_le h hn] at heq
      obtain ⟨hfront, hend⟩ := List.append_inj' heq rfl
      have hdiv := ih (m / radix) (Nat.div_lt_self (by omega) h) hfront
      have hmod := digitChar_injective _ (hlast m) _ (hlast n) (List.singleton_inj.mp hend)
      rw [← Nat.div_add_mod m radix, ← Nat.div_add_mod n radix, hdiv, hmod]

/-- The characters of a numeral are digits. -/
lemma mem_toDigits {radix n : Nat} (h : 1 < radix) {c : Char} (hc : c ∈ Nat.toDigits radix n) :
    ∃ d < radix, c = Nat.digitChar d := by
  induction n using Nat.strong_induction_on with
  | _ n ih =>
    rcases Nat.lt_or_ge n radix with hn | hn
    · rw [Nat.toDigits_of_lt_base hn] at hc
      exact ⟨n, hn, List.mem_singleton.mp hc⟩
    · rw [Nat.toDigits_of_base_le h hn, List.mem_append, List.mem_singleton] at hc
      rcases hc with hc | rfl
      · exact ih (n / radix) (Nat.div_lt_self (by omega) h) hc
      · exact ⟨n % radix, Nat.mod_lt n (by omega), rfl⟩

/-- Whatever is no hexadecimal digit is in no numeral. -/
lemma not_mem_toDigits {radix : Nat} (h : 1 < radix) (h' : radix ≤ 16) {c : Char}
    (hc : ∀ d < 16, Nat.digitChar d ≠ c) (n : Nat) : c ∉ Nat.toDigits radix n := by
  intro hmem
  obtain ⟨d, hd, rfl⟩ := mem_toDigits h hmem
  exact hc d (by omega) rfl

end CompletionGateway.Numeric
