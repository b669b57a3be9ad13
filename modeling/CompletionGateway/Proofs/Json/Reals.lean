import CompletionGateway.Proofs.Json.Numbers

/-! Texts of floating-point numbers in JSON: the digits of the shortest decimal with a point, an exponent or both. -/
namespace CompletionGateway
open Numeric Json

namespace Numeric

/-! ### Shortest decimals -/

namespace Decimal

lemma onGrid?_pos {f : Format} {tie : Tie} {m : Nat} {e : Int} {count : Nat} {d : Decimal}
    (h : onGrid? f tie m e count = some d) : d.digits ≠ 0 := by
  unfold onGrid? at h
  extract_lets v g ten unit lhs rhs n within lo hi below above preferHi at h
  split at h
  · rename_i hlo
    simp only [Bool.and_eq_true, decide_eq_true_eq] at hlo
    split at h
    · obtain rfl := Option.some.inj h
      exact Nat.succ_ne_zero lo
    · obtain rfl := Option.some.inj h
      exact Nat.pos_iff_ne_zero.mp hlo.2
  · split at h
    · obtain rfl := Option.some.inj h
      exact Nat.succ_ne_zero lo
    · cases h

lemma strip_pos {n : Nat} {d : Decimal} (h : d.digits ≠ 0) : (strip n d).digits ≠ 0 := by
  induction n generalizing d with
  | zero => exact h
  | succ n ih =>
    unfold strip
    split
    · rename_i hd
      exact ih (by show d.digits / 10 ≠ 0; omega)
    · exact h

lemma shortest_pos {f : Format} {tie : Tie} {m : Nat} (hm : m ≠ 0) (e : Int) : (shortest f tie m e).digits ≠ 0 := by
  unfold shortest
  split
  · rename_i d hd
    obtain ⟨i, -, hi⟩ := List.exists_of_findSome?_eq_some hd
    exact strip_pos (onGrid?_pos hi)
  · exact hm

end Decimal

/-! ### How numbers are laid out -/

/-- A number in a layout that gives positive exponents a sign. -/
def Layout.written (l : Layout) (f : Format) (negative : Bool) (m : Nat) (e : Int) : Written :=
  let d := Decimal.shortest f l.tie m e
  let x := d.scientific
  if l.least ≤ x ∧ x ≤ l.greatest then
    ⟨negative, d.positional.1, if d.positional.2.isEmpty then ['0'] else d.positional.2, none⟩
  else
    ⟨negative, (digitChars d.digits).take 1, (digitChars d.digits).drop 1, some (decide (x < 0), digitChars x.natAbs)⟩

lemma Layout.text_eq {l : Layout} (hl : l.signedExponent = true) (f : Format) (negative : Bool) (m : Nat) (e : Int) :
    (signText negative ++ l.text f m e).toList = (l.written f negative m e).chars := by
  have hsign : (signText negative).toList = signChars negative := by cases negative <;> rfl
  unfold Layout.text Layout.written Written.chars
  rw [String.toList_append, hsign]
  dsimp only
  generalize Decimal.shortest f l.tie m e = d
  split
  · by_cases hp : d.positional.2 = [] <;> simp [hp, Json.fractionChars, exponentChars]
  · by_cases hx : d.scientific < 0
    · simp [hx, Json.fractionChars, exponentChars]
    · simp [hx, Json.fractionChars, exponentChars]

lemma digits_take {cs : List Char} (h : ∀ c ∈ cs, c.isDigit = true) (n : Nat) : ∀ c ∈ cs.take n, c.isDigit = true :=
  fun c hc => h c (List.mem_of_mem_take hc)

lemma digits_drop {cs : List Char} (h : ∀ c ∈ cs, c.isDigit = true) (n : Nat) : ∀ c ∈ cs.drop n, c.isDigit = true :=
  fun c hc => h c (List.mem_of_mem_drop hc)

lemma digits_zeros (n : Nat) : ∀ c ∈ List.replicate n '0', c.isDigit = true := by
  intro c hc
  rw [List.eq_of_mem_replicate hc]
  rfl

lemma digits_append {cs ds : List Char} (h : ∀ c ∈ cs, c.isDigit = true) (h' : ∀ c ∈ ds, c.isDigit = true) :
    ∀ c ∈ cs ++ ds, c.isDigit = true := by
  intro c hc
  rcases List.mem_append.mp hc with hc | hc
  · exact h c hc
  · exact h' c hc

namespace Decimal

lemma positional_whole {d : Decimal} (hd : d.digits ≠ 0) : WholeDigits d.positional.1 := by
  obtain ⟨c, cs, hcs, hc⟩ := head_digitChars hd
  have hdigits : ∀ x ∈ digitChars d.digits, x.isDigit = true := fun x => isDigit_of_mem_digitChars
  unfold positional
  split
  · refine ⟨digits_append hdigits (digits_zeros _), ?_, ?_⟩
    · rw [hcs]
      exact List.cons_ne_nil _ _
    · rw [hcs]
      intro h
      exact absurd (Option.some.inj h) hc
  · dsimp only
    split
    · rename_i hplaces
      obtain ⟨k, hk⟩ : ∃ k, (digitChars d.digits).length - (-d.exponent).toNat = k + 1 :=
        Nat.exists_eq_add_one.mpr (by omega)
      rw [hk, hcs, List.take_succ_cons]
      refine ⟨?_, List.cons_ne_nil _ _, fun h => absurd (Option.some.inj h) hc⟩
      rw [← List.take_succ_cons, ← hcs]
      exact digits_take hdigits _
    · exact ⟨by simp [Char.isDigit], by simp, by simp⟩

lemma positional_fraction (d : Decimal) : ∀ c ∈ d.positional.2, c.isDigit = true := by
  have hdigits : ∀ x ∈ digitChars d.digits, x.isDigit = true := fun x => isDigit_of_mem_digitChars
  unfold positional
  split
  · simp
  · dsimp only
    split
    · exact digits_drop hdigits _
    · exact digits_append (digits_zeros _) hdigits

end Decimal

lemma Layout.written_legal (l : Layout) (f : Format) (negative : Bool) {m : Nat} (hm : m ≠ 0) (e : Int) :
    (l.written f negative m e).Legal := by
  have hd : (Decimal.shortest f l.tie m e).digits ≠ 0 := Decimal.shortest_pos hm e
  unfold Layout.written
  extract_lets d x
  split
  · refine ⟨Decimal.positional_whole hd, ?_, by simp⟩
    dsimp only
    split
    · simp [Char.isDigit]
    · exact d.positional_fraction
  · obtain ⟨c, cs, hcs, hc⟩ := head_digitChars hd
    have hdigits : ∀ x ∈ digitChars d.digits, x.isDigit = true := fun x => isDigit_of_mem_digitChars
    refine ⟨⟨digits_take hdigits 1, ?_, ?_⟩, digits_drop hdigits 1, ?_⟩
    · rw [hcs]
      exact List.cons_ne_nil _ _
    · rw [hcs]
      exact fun _ => rfl
    · rintro y hy
      obtain rfl := Option.some.inj hy
      exact ⟨fun c => isDigit_of_mem_digitChars, digitChars_ne_nil _⟩

end Numeric

namespace Json

/-- The layout of a format in JSON. -/
def layoutOf (f : Format) : Layout := if f = single then singleLayout else doubleLayout

/-- A finite number as it is written. -/
def Written.ofReal (f : Format) (negative : Bool) (m : Nat) (e : Int) : Written :=
  if m = 0 then ⟨negative, ['0'], ['0'], none⟩ else (layoutOf f).written f negative m e

lemma realText_eq (f : Format) (negative : Bool) (m : Nat) (e : Int) :
    (realText f (.finite negative m e)).toList = (Written.ofReal f negative m e).chars := by
  cases m with
  | zero =>
    cases negative <;> simp [realText, signText, Written.ofReal, Written.chars, signChars, fractionChars, exponentChars]
  | succ m =>
    have hl : (layoutOf f).signedExponent = true := by
      unfold layoutOf
      split <;> rfl
    rw [Written.ofReal, if_neg m.succ_ne_zero]
    exact Layout.text_eq hl f negative (m + 1) e

lemma Written.ofReal_legal (f : Format) (negative : Bool) (m : Nat) (e : Int) : (ofReal f negative m e).Legal := by
  unfold ofReal
  split
  · exact ⟨⟨by simp [Char.isDigit], by simp, by simp⟩, by simp [Char.isDigit], by simp⟩
  · rename_i hm
    exact (layoutOf f).written_legal f negative hm e

end Json
end CompletionGateway
