import CompletionGateway.Json.Decode
import CompletionGateway.Proofs.Json.Text
import CompletionGateway.Proofs.Numeric.Magnitudes

/-! Doubles below 2 ^ 75 are read back from their JSON texts as doubles: nothing on the way grows beyond all of them. -/
namespace CompletionGateway.Json
open Numeric

namespace Numeral

/-! ### Gathering digits -/

lemma gatherWhole_bounds (ds : List Nat) {g : Gathered} (hg : g.significand < wordLimit) :
    (ds.foldl gatherWhole g).significand < wordLimit ∧ (ds.foldl gatherWhole g).shift ≤ g.shift + ds.length := by
  induction ds generalizing g with
  | nil => exact ⟨hg, by simp⟩
  | cons d ds ih =>
    have hstep : (gatherWhole g d).significand < wordLimit ∧ (gatherWhole g d).shift ≤ g.shift + 1 := by
      unfold gatherWhole
      split
      · exact ⟨hg, le_refl _⟩
      · split
        · rename_i hfits
          exact ⟨hfits, by dsimp only; omega⟩
        · exact ⟨hg, le_refl _⟩
    obtain ⟨hsignificand, hshift⟩ := ih hstep.1
    rw [List.foldl_cons, List.length_cons]
    exact ⟨hsignificand, by push_cast; omega⟩

lemma gatherFraction_bounds (ds : List Nat) {g : Gathered} (hg : g.significand < wordLimit) :
    (ds.foldl gatherFraction g).significand < wordLimit ∧ (ds.foldl gatherFraction g).shift ≤ g.shift := by
  induction ds generalizing g with
  | nil => exact ⟨hg, le_refl _⟩
  | cons d ds ih =>
    have hstep : (gatherFraction g d).significand < wordLimit ∧ (gatherFraction g d).shift ≤ g.shift := by
      unfold gatherFraction
      split
      · exact ⟨hg, le_refl _⟩
      · split
        · rename_i hfits
          exact ⟨hfits, by dsimp only; omega⟩
        · exact ⟨hg, le_refl _⟩
    obtain ⟨hsignificand, hshift⟩ := ih hstep.1
    exact ⟨hsignificand, hshift.trans hstep.2⟩

lemma gather_bounds (n : Numeral) : n.gather.significand < wordLimit ∧ n.gather.shift ≤ n.whole.length := by
  obtain ⟨hsignificand, hshift⟩ := gatherWhole_bounds n.whole (g := ⟨0, 0, false⟩) (by decide)
  obtain ⟨hsignificand', hshift'⟩ := gatherFraction_bounds n.fraction
    (g := ⟨(n.whole.foldl gatherWhole ⟨0, 0, false⟩).significand,
      (n.whole.foldl gatherWhole ⟨0, 0, false⟩).shift, false⟩) hsignificand
  rw [Int.zero_add] at hshift
  exact ⟨hsignificand', hshift'.trans hshift⟩

/-! ### Scaling -/

-- Unless `ofDecimal` is kept shut, the equation is checked by computing 10 ^ 308.
attribute [local irreducible] Format.ofDecimal in
lemma scale_finite (n : Nat) (s : Bool) (m : Nat) (x e : Int) :
    scale (n + 1) (.finite s m x) e =
      if e.natAbs ≤ 308 then
        match double.ofDecimal false 1 e.natAbs with
        | .finite _ m' x' =>
          if 0 ≤ e then
            match double.mulFinite false m x m' x' with
            | .infinite _ => none
            | r => some r
          else some (double.divFinite false m x m' x')
        | r => some r
      else if m = 0 then some (.finite s m x)
      else if 0 ≤ e then none
      else
        match double.ofDecimal false 1 308 with
        | .finite _ m' x' => scale n (double.divFinite false m x m' x') (e + 308)
        | r => some r := rfl

/-- Scaling down never fails. -/
lemma scale_neg (n : Nat) (v : Binary) {e : Int} (he : e < 0) : (scale n v e).isSome = true := by
  induction n generalizing v e with
  | zero => rfl
  | succ n ih =>
    have hdown : ¬0 ≤ e := Int.not_le.mpr he
    cases v with
    | nan => rfl
    | infinite s => rfl
    | finite s m x =>
      simp only [scale_finite, hdown, if_false]
      generalize double.ofDecimal false 1 e.natAbs = ten
      generalize double.ofDecimal false 1 308 = most
      split
      · cases ten <;> rfl
      · split
        · rfl
        · cases most with
          | finite s' m' x' => exact ih _ (show e + 308 < 0 by omega)
          | _ => rfl

/-- The powers of ten that are used here. -/
lemma ofDecimal_small :
    ∀ k < 24, ∃ s m x, double.ofDecimal false 1 (k : Nat) = .finite s m x ∧ m ≤ 2 ^ 53 ∧ x ≤ 30 := by
  have h : ∀ k < 24, (match double.ofDecimal false 1 (k : Nat) with
      | .finite _ m x => decide (m ≤ 2 ^ 53 ∧ x ≤ 30)
      | _ => false) = true := by decide +kernel
  intro k hk
  have hk' := h k hk
  split at hk'
  · rename_i s m x heq
    exact ⟨s, m, x, heq, of_decide_eq_true hk'⟩
  · cases hk'

/-- A word times a small power of ten is a double. -/
lemma scale_word {n : Nat} (hn : n < wordLimit) {e : Int} (he : e ≤ 23) (k : Nat) :
    (scale (k + 1) (double.round false n 1) e).isSome = true := by
  by_cases hneg : e < 0
  · exact scale_neg _ _ hneg
  obtain ⟨m, x, hround, hm, hx⟩ := Format.round_word false hn
  obtain ⟨s', m', x', hten, hm', hx'⟩ := ofDecimal_small e.natAbs (by omega)
  obtain ⟨m'', x'', hproduct⟩ := Format.mulFinite_finite false hm hm' (show x + x' ≤ 43 by omega)
  have hsmall : e.natAbs ≤ 308 := by omega
  rw [hround, scale_finite, hten, if_pos hsmall]
  dsimp only
  rw [if_pos (Int.not_lt.mp hneg), hproduct]
  rfl

/-- A number with few whole digits and no large exponent is read. -/
lemma toReal?_isSome {n : Numeral} (hwhole : n.whole.length ≤ 23)
    (hexponent : ∀ ds, n.exponent = some (false, ds) → n.whole.length + digitsValue ds ≤ 23) :
    ∃ b, n.toReal? = some b := by
  obtain ⟨hsignificand, hshift⟩ := n.gather_bounds
  have hscale : ∀ e : Int, e ≤ 23 → (scale 8 (double.round false n.gather.significand 1) e).isSome = true :=
    fun e he => scale_word hsignificand he 7
  apply Option.isSome_iff_exists.mp
  unfold toReal?
  rw [Option.isSome_map]
  split
  · exact hscale _ (by omega)
  · rename_i negative ds heq
    dsimp only
    cases negative with
    | true =>
      split
      · exact hscale _ (by simp only [if_true]; omega)
      · simp
    | false =>
      have hbound := hexponent ds heq
      rw [if_pos (show digitsValue ds < exponentLimit by unfold exponentLimit; omega)]
      exact hscale _ (by simp only [Bool.false_eq_true, if_false]; omega)

end Numeral

/-! ### Numbers as they are written -/

lemma positional_whole_length {d : Decimal} (h : d.scientific ≤ 15) : d.positional.1.length ≤ 16 := by
  unfold Decimal.scientific digitCount at h
  unfold Decimal.positional
  split
  · rw [List.length_append, List.length_replicate]
    omega
  · dsimp only
    split
    · rw [List.length_take]
      omega
    · simp

/-- A double below 2 ^ 75 is read back as a double, if not always as the same one. -/
theorem real_written {s : Bool} {m : Nat} {e : Int} (hm : m < 2 ^ 53) (he : e ≤ 22) :
    ∃ b, Decode.real double (tree (.real double (.finite s m e))) = some b := by
  have hread : ∀ n : Numeral, n.integer? = none → n.whole.length ≤ 23 →
      (∀ ds, n.exponent = some (false, ds) → n.whole.length + digitsValue ds ≤ 23) →
      ∃ b, Decode.real double (.number n) = some b := by
    intro n hinteger hwhole hexponent
    obtain ⟨b, hb⟩ := Numeral.toReal?_isSome hwhole hexponent
    exact ⟨double.convert b, by simp [Decode.real, Numeral.toBinary?, Numeral.read?, hinteger, hb]⟩
  rw [tree, Written.ofReal]
  split
  · refine hread _ rfl (show 1 ≤ 23 by decide) ?_
    intro ds h
    cases h
  · rename_i hpos
    have hd : (Decimal.shortest double (layoutOf double).tie m e).digits ≠ 0 := Decimal.shortest_pos hpos e
    have hx : (Decimal.shortest double (layoutOf double).tie m e).scientific ≤ 22 :=
      Decimal.scientific_le hd (Decimal.shortest_value hm he)
    unfold Layout.written
    extract_lets d x
    split
    · rename_i hlayout
      have hlength : d.positional.1.length ≤ 16 := positional_whole_length hlayout.2
      refine hread _ ?_ ?_ ?_
      · -- there is a fraction, of a zero if need be
        have hfraction : (if d.positional.2 = [] then ['0'] else d.positional.2) ≠ [] := by
          split
          · exact List.cons_ne_nil _ _
          · assumption
        simp [Numeral.integer?, Written.numeral, hfraction]
      · simp only [Written.numeral, List.length_map]
        omega
      · intro ds h
        cases h
    · have hwhole : ((digitChars d.digits).take 1).length ≤ 1 := List.length_take_le _ _
      refine hread _ ?_ ?_ ?_
      · simp [Numeral.integer?, Written.numeral]
      · simp only [Written.numeral, List.length_map]
        omega
      · intro ds h
        simp only [Written.numeral, Option.map_some, Option.some.injEq, Prod.mk.injEq, decide_eq_false_iff_not] at h
        obtain ⟨hsign, rfl⟩ := h
        rw [digitsValue_digitChars]
        simp only [Written.numeral, List.length_map]
        have hx' : x ≤ 22 := hx
        omega

end CompletionGateway.Json
