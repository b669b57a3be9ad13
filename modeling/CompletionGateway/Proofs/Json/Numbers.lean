import CompletionGateway.Json.Value
import CompletionGateway.Proofs.Text.Utf8

/-! JSON numbers are read back from their texts: a sign, digits without leading zeros, a point with digits behind it,
an exponent, and something that cannot go on with a number. -/
namespace CompletionGateway.Json
open Numeric Text.Utf8

/-! ### Digits -/

lemma toNat_of_isDigit {c : Char} (h : c.isDigit = true) : 48 ≤ c.toNat ∧ c.toNat ≤ 57 := by
  simpa [Char.isDigit, UInt32.le_iff_toNat_le] using h

lemma encoded_digit {c : Char} (h : c.isDigit = true) (cs : List Char) :
    encoded (c :: cs) = UInt8.ofNat c.toNat :: encoded cs :=
  encoded_cons_ascii (by have := toNat_of_isDigit h; omega) cs

lemma toNat_digit {c : Char} (h : c.isDigit = true) : (UInt8.ofNat c.toNat).toNat = c.toNat := by
  have hc := toNat_of_isDigit h
  exact UInt8.toNat_ofNat_of_lt' (by show _ < 256; omega)

lemma isDigit_digit {c : Char} (h : c.isDigit = true) : isDigit (UInt8.ofNat c.toNat) = true := by
  have hc := toNat_of_isDigit h
  simp only [isDigit, UInt8.le_iff_toNat_le, toNat_digit h, UInt8.reduceToNat, Bool.and_eq_true, decide_eq_true_eq]
  omega

lemma isDigit_iff {b : UInt8} : isDigit b = true ↔ 48 ≤ b.toNat ∧ b.toNat ≤ 57 := by
  simp [isDigit, UInt8.le_iff_toNat_le]

/-- The value of a digit. -/
def digitOf (c : Char) : Nat := c.toNat - 48

/-- No digit stands at the front. -/
def NoDigit (bytes : List UInt8) : Prop := ∀ b ∈ bytes.head?, isDigit b = false

lemma digits_encoded {cs : List Char} (hcs : ∀ c ∈ cs, c.isDigit = true) {rest : List UInt8} (hrest : NoDigit rest) :
    digitValues (encoded cs ++ rest) = cs.map digitOf ∧ skipDigits (encoded cs ++ rest) = rest := by
  induction cs with
  | nil =>
    cases rest with
    | nil => exact ⟨rfl, rfl⟩
    | cons b rest =>
      have hb : isDigit b = false := hrest b rfl
      simp [digitValues, skipDigits, hb]
  | cons c cs ih =>
    have hc := hcs c List.mem_cons_self
    obtain ⟨hvalues, hskip⟩ := ih fun d hd => hcs d (List.mem_cons_of_mem _ hd)
    rw [encoded_digit hc]
    constructor
    · rw [digitValues] at hvalues
      simp [digitValues, isDigit_digit hc, hvalues, toNat_digit hc, digitOf]
    · rw [skipDigits] at hskip
      simp [skipDigits, isDigit_digit hc, hskip]

lemma isDigit_of_mem_digitChars {n : Nat} {c : Char} (h : c ∈ digitChars n) : c.isDigit = true :=
  Nat.isDigit_of_mem_toDigits (by omega) (by omega) h

lemma digitChars_ne_nil (n : Nat) : digitChars n ≠ [] := Nat.toDigits_ne_nil

lemma digitsValue_digitChars (n : Nat) : digitsValue ((digitChars n).map digitOf) = n := by
  have h : Nat.ofDigitChars 10 (digitChars n) 0 = n := Nat.ofDigitChars_ten_toDigits
  rw [Nat.ofDigitChars_eq_foldl] at h
  rw [digitsValue, List.foldl_map]
  simpa [Nat.mul_comm, digitOf] using h

/-- The first digit is a zero only in zero itself. -/
lemma head_digitChars {n : Nat} (h : n ≠ 0) : ∃ c cs, digitChars n = c :: cs ∧ digitOf c ≠ 0 := by
  induction n using Nat.strongRecOn with
  | ind n ih =>
    by_cases hn : n < 10
    · refine ⟨_, [], Nat.toDigits_of_lt_base hn, ?_⟩
      rw [digitOf, Nat.toNat_digitChar_sub_48_of_lt_ten hn]
      exact h
    · obtain ⟨c, cs, hcs, hc⟩ := ih (n / 10) (by omega) (by omega)
      refine ⟨c, cs ++ [(n % 10).digitChar], ?_, hc⟩
      rw [digitChars, Nat.toDigits_of_base_le (by omega) (by omega)]
      rw [digitChars] at hcs
      rw [hcs]
      rfl

lemma digits_last {ds : List Char} (hds : ∀ c ∈ ds, c.isDigit = true) (hne : ds ≠ []) (front : List Char) :
    ∃ cs c, front ++ ds = cs ++ [c] ∧ c.isDigit = true := by
  obtain ⟨ds, c, rfl⟩ := ds.eq_nil_or_concat'.resolve_left hne
  exact ⟨front ++ ds, c, (List.append_assoc ..).symm, hds c (by simp)⟩

/-! ### Numbers -/

/-- Digits that can stand in front of a point: at least one, and no needless zero at the front. -/
structure WholeDigits (cs : List Char) : Prop where
  digits : ∀ c ∈ cs, c.isDigit = true
  some : cs ≠ []
  unpadded : cs.head?.map digitOf = .some 0 → cs.length = 1

lemma wholeDigits_digitChars (n : Nat) : WholeDigits (digitChars n) := by
  refine ⟨fun c => isDigit_of_mem_digitChars, digitChars_ne_nil n, ?_⟩
  intro h
  by_cases hn : n = 0
  · subst hn
    rfl
  · obtain ⟨c, cs, hcs, hc⟩ := head_digitChars hn
    rw [hcs] at h
    exact absurd (Option.some.inj h) hc

/-- A number as it is written: digits before the point, digits behind it, and an exponent if there is one. -/
structure Written where
  negative : Bool
  whole : List Char
  fraction : List Char
  exponent : Option (Bool × List Char)

/-- What cannot go on with a number. -/
def NumberEnd (bytes : List UInt8) : Prop := ∀ b ∈ bytes.head?, isDigit b = false ∧ b ≠ 46 ∧ b ≠ 101 ∧ b ≠ 69

lemma NumberEnd.noDigit {bytes : List UInt8} (h : NumberEnd bytes) : NoDigit bytes := fun b hb => (h b hb).1

/-- A signed exponent. -/
def exponentChars : Option (Bool × List Char) → List Char
  | none => []
  | some (negative, ds) => 'e' :: (if negative then '-' else '+') :: ds

def fractionChars (ds : List Char) : List Char := if ds.isEmpty then [] else '.' :: ds

def signChars (negative : Bool) : List Char := if negative then ['-'] else []

namespace Written

def chars (w : Written) : List Char :=
  signChars w.negative ++ w.whole ++ fractionChars w.fraction ++ exponentChars w.exponent

/-- The number that is read. -/
def numeral (w : Written) : Numeral :=
  ⟨w.negative, w.whole.map digitOf, w.fraction.map digitOf, w.exponent.map fun x => (x.1, x.2.map digitOf)⟩

structure Legal (w : Written) : Prop where
  whole : WholeDigits w.whole
  fraction : ∀ c ∈ w.fraction, c.isDigit = true
  exponent : ∀ x ∈ w.exponent, (∀ c ∈ x.2, c.isDigit = true) ∧ x.2 ≠ []

/-- A number begins with a sign or a digit. -/
lemma Legal.head {w : Written} (h : w.Legal) : ∃ c cs, w.chars = c :: cs ∧ (c = '-' ∨ c.isDigit = true) := by
  obtain ⟨c, cs, hwhole⟩ := List.exists_cons_of_ne_nil h.whole.some
  unfold chars
  cases w.negative with
  | true => exact ⟨'-', _, rfl, .inl rfl⟩
  | false =>
    rw [hwhole]
    exact ⟨c, _, rfl, .inr (h.whole.digits c (by rw [hwhole]; exact List.mem_cons_self))⟩

/-- A number ends with a digit, which stands in its exponent, its fraction or in front of the point. -/
lemma Legal.last {w : Written} (h : w.Legal) : ∃ cs c, w.chars = cs ++ [c] ∧ c.isDigit = true := by
  unfold chars
  match hexponent : w.exponent with
  | some (negative, ds) =>
    obtain ⟨hds, hne⟩ := h.exponent _ hexponent
    obtain ⟨cs, c, hlast, hc⟩ := digits_last hds hne
      (signChars w.negative ++ w.whole ++ fractionChars w.fraction ++ ['e', if negative then '-' else '+'])
    exact ⟨cs, c, by rw [← hlast]; simp [exponentChars], hc⟩
  | none =>
    rw [show exponentChars none = [] from rfl, List.append_nil]
    by_cases hfraction : w.fraction = []
    · rw [hfraction, show fractionChars [] = [] from rfl, List.append_nil]
      exact digits_last h.whole.digits h.whole.some _
    · obtain ⟨cs, c, hlast, hc⟩ := digits_last h.fraction hfraction (signChars w.negative ++ w.whole ++ ['.'])
      exact ⟨cs, c, by rw [← hlast]; simp [fractionChars, hfraction], hc⟩

end Written

lemma exponentPart_encoded {e : Option (Bool × List Char)} (he : ∀ x ∈ e, (∀ c ∈ x.2, c.isDigit = true) ∧ x.2 ≠ [])
    {rest : List UInt8} (hrest : NumberEnd rest) :
    exponentPart (encoded (exponentChars e) ++ rest) = some (e.map fun x => (x.1, x.2.map digitOf), rest) := by
  cases e with
  | none =>
    cases rest with
    | nil => rfl
    | cons b rest =>
      obtain ⟨-, -, h1, h2⟩ := hrest b rfl
      simp [exponentChars, exponentPart, h1, h2]
  | some x =>
    obtain ⟨negative, ds⟩ := x
    obtain ⟨hds, hne⟩ := he _ rfl
    obtain ⟨hvalues, hskip⟩ := digits_encoded hds hrest.noDigit
    have hempty : (ds.map digitOf).isEmpty = false := by simpa using hne
    cases negative with
    | true =>
      have henc : encoded (exponentChars (some (true, ds))) = 101 :: 45 :: encoded ds := rfl
      rw [henc]
      simp [exponentPart, hvalues, hskip, hne]
    | false =>
      have henc : encoded (exponentChars (some (false, ds))) = 101 :: 43 :: encoded ds := rfl
      rw [henc]
      simp [exponentPart, hvalues, hskip, hne]

/-- What follows the digits before the point. -/
def numeralTail (negative : Bool) (whole : List Nat) : List UInt8 → Option (Numeral × List UInt8)
  | 46 :: rest =>
    let fraction := digitValues rest
    if fraction.isEmpty then none
    else (exponentPart (skipDigits rest)).map fun e => (⟨negative, whole, fraction, e.1⟩, e.2)
  | rest => (exponentPart rest).map fun e => (⟨negative, whole, [], e.1⟩, e.2)

lemma numeral_eq {negative : Bool} {bytes : List UInt8} (hsign : negative = false → bytes.head? ≠ some 45)
    (hwhole : digitValues bytes ≠ [])
    (hpadded : (digitValues bytes).head? = some 0 → (digitValues bytes).length = 1) :
    numeral (encoded (signChars negative) ++ bytes) =
      numeralTail negative (digitValues bytes) (skipDigits bytes) := by
  have hguard : ((digitValues bytes).isEmpty || (decide ((digitValues bytes).head? = some 0) &&
      decide (1 < (digitValues bytes).length))) = false := by
    cases hv : digitValues bytes with
    | nil => exact absurd hv hwhole
    | cons v vs =>
      rw [hv] at hpadded
      by_cases h0 : v = 0
      · have := hpadded (by rw [h0]; rfl)
        simp_all
      · simp [h0]
  have hmain : ∀ negative, (if ((digitValues bytes).isEmpty || (decide ((digitValues bytes).head? = some 0) &&
      decide (1 < (digitValues bytes).length))) = true then none else numeralTail negative (digitValues bytes)
        (skipDigits bytes)) = numeralTail negative (digitValues bytes) (skipDigits bytes) := by
    intro negative
    rw [hguard]
    rfl
  cases negative with
  | true =>
    rw [← hmain]
    rfl
  | false =>
    rw [← hmain]
    have hbytes : encoded (signChars false) ++ bytes = bytes := rfl
    rw [hbytes]
    unfold numeral
    split
    rename_i negative bytes' heq
    split at heq
    · exact absurd rfl (hsign rfl)
    · obtain ⟨rfl, rfl⟩ := Prod.ext_iff.mp heq
      rfl

/-- A number is read back from its text. -/
theorem numeral_encoded {w : Written} (hw : w.Legal) {rest : List UInt8} (hrest : NumberEnd rest) :
    numeral (encoded w.chars ++ rest) = some (w.numeral, rest) := by
  obtain ⟨negative, whole, fraction, e⟩ := w
  obtain ⟨hwhole, hfraction, he⟩ := hw
  dsimp only at hwhole hfraction he
  obtain ⟨c, cs, rfl⟩ := List.exists_cons_of_ne_nil hwhole.some
  have hc := hwhole.digits c List.mem_cons_self
  have hexponent := exponentPart_encoded he hrest
  have hexponentEnd : NoDigit (encoded (exponentChars e) ++ rest) := by
    cases e with
    | none => exact hrest.noDigit
    | some x =>
      rintro b hb
      obtain rfl : 101 = b := by simpa [exponentChars, encoded_cons, encoded_ascii] using hb
      rfl
  have htail : NoDigit (encoded (fractionChars fraction) ++ (encoded (exponentChars e) ++ rest)) := by
    by_cases hf : fraction = []
    · subst hf
      exact hexponentEnd
    · rintro b hb
      obtain rfl : 46 = b := by simpa [fractionChars, hf, encoded_cons, encoded_ascii] using hb
      rfl
  obtain ⟨hvalues, hskip⟩ := digits_encoded hwhole.digits htail
  have hsign : negative = false → (encoded (c :: cs) ++ (encoded (fractionChars fraction) ++
      (encoded (exponentChars e) ++ rest))).head? ≠ some 45 := by
    -- a digit is no sign
    intro _ h
    rw [encoded_digit hc, List.cons_append] at h
    have hdigit := isDigit_digit hc
    rw [Option.some.inj h] at hdigit
    exact absurd hdigit (by decide)
  have hnumeral := numeral_eq hsign ?_ ?_
  · simp only [Written.chars, Written.numeral, encoded_append, List.append_assoc]
    rw [hnumeral, hvalues, hskip]
    by_cases hf : fraction = []
    · subst hf
      have hpoint : (encoded (exponentChars e) ++ rest).head? ≠ some 46 := by
        cases e with
        | none => exact fun h => (hrest 46 h).2.1 rfl
        | some x => simp [exponentChars, encoded_cons, encoded_ascii]
      unfold numeralTail
      split
      · rename_i heq
        exact absurd (congrArg List.head? heq) hpoint
      · rw [show encoded (fractionChars []) ++ (encoded (exponentChars e) ++ rest) = encoded (exponentChars e) ++ rest
          from rfl, hexponent]
        rfl
    · have hpoint : encoded (fractionChars fraction) = 46 :: encoded fraction := by
        rw [fractionChars, if_neg (by simpa using hf)]
        rfl
      obtain ⟨hvalues', hskip'⟩ := digits_encoded hfraction hexponentEnd
      rw [hpoint, List.cons_append, numeralTail, hvalues', hskip', hexponent]
      simp [hf]
  · rw [hvalues]
    exact List.cons_ne_nil _ _
  · rw [hvalues]
    intro h
    rw [List.length_map]
    exact hwhole.unpadded h

end CompletionGateway.Json
