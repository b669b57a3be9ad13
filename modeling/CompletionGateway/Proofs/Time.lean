import Mathlib
import CompletionGateway.Proofs.Calendar
import CompletionGateway.Time

/-! Instants as texts with six digits of fraction. A text is read back as its instant to the microsecond, and texts of
the years from 0 to 9999 are in the order of their instants. -/
namespace CompletionGateway.Time

/-! ### Numbers of a fixed width -/

lemma digit?_isSome_of_isDigit {c : Char} (h : c.isDigit = true) : (digit? c).isSome = true := by
  simp only [Char.isDigit, Bool.and_eq_true, decide_eq_true_eq] at h
  rw [digit?, if_pos ⟨h.1, h.2⟩]
  rfl

lemma isDigit_of_mem_padded {w n : Nat} {c : Char} (h : c ∈ padded w n) : c.isDigit = true := by
  rcases List.mem_append.mp h with h | h
  · rw [List.eq_of_mem_replicate h]
    rfl
  · exact Nat.isDigit_of_mem_toDigits (by omega) (by omega) h

lemma padded_one {n : Nat} (h : n < 10) : padded 1 n = [Nat.digitChar n] := by
  simp [padded, Nat.toDigits_of_lt_base h]

/-- The last digit apart. -/
lemma padded_succ {w : Nat} (hw : 0 < w) (n : Nat) :
    padded (w + 1) n = padded w (n / 10) ++ [Nat.digitChar (n % 10)] := by
  rcases Nat.lt_or_ge n 10 with h | h
  · have hzeros : List.replicate w '0' = List.replicate (w - 1) '0' ++ ['0'] := by
      rw [← List.replicate_succ', Nat.sub_add_cancel hw]
    have hzero : Nat.toDigits 10 0 = ['0'] := rfl
    simp [padded, Nat.toDigits_of_lt_base h, Nat.div_eq_of_lt h, Nat.mod_eq_of_lt h, hzero, hzeros]
  · simp [padded, Nat.toDigits_of_base_le (by omega) h]

lemma length_padded {w : Nat} (hw : 0 < w) {n : Nat} (h : n < 10 ^ w) : (padded w n).length = w := by
  induction w, hw using Nat.le_induction generalizing n with
  | base => rw [padded_one (by simpa using h)]; rfl
  | succ w hw ih =>
    have hlt : n / 10 < 10 ^ w := by rw [pow_succ] at h; omega
    rw [padded_succ hw, List.length_append, ih hlt]
    rfl

lemma foldl_padded {w : Nat} (hw : 0 < w) {n : Nat} (h : n < 10 ^ w) :
    (padded w n).foldl (fun n c => n * 10 + (c.toNat - 48)) 0 = n := by
  induction w, hw using Nat.le_induction generalizing n with
  | base =>
    have hlt : n < 10 := by simpa using h
    rw [padded_one hlt]
    simp [Nat.toNat_digitChar_sub_48_of_lt_ten hlt]
  | succ w hw ih =>
    have hlt : n / 10 < 10 ^ w := by rw [pow_succ] at h; omega
    have hdigit : n % 10 < 10 := Nat.mod_lt n (by decide)
    rw [padded_succ hw, List.foldl_append, ih hlt]
    simp only [List.foldl_cons, List.foldl_nil, Nat.toNat_digitChar_sub_48_of_lt_ten hdigit]
    omega

lemma digitChar_lt : ∀ b < 10, ∀ a < b, Nat.digitChar a < Nat.digitChar b := by decide

/-- Numbers of one width are in the order of their digits, whatever follows. -/
lemma padded_lt {w : Nat} (hw : 0 < w) {a b : Nat} (h : a < b) (hb : b < 10 ^ w) (cs ds : List Char) :
    padded w a ++ cs < padded w b ++ ds := by
  induction w, hw using Nat.le_induction generalizing a b cs ds with
  | base =>
    have hlt : b < 10 := by simpa using hb
    rw [padded_one hlt, padded_one (h.trans hlt)]
    exact List.cons_lt_cons_iff.mpr (.inl (digitChar_lt b hlt a h))
  | succ w hw ih =>
    have hlt : b / 10 < 10 ^ w := by rw [pow_succ] at hb; omega
    simp only [padded_succ hw, List.append_assoc]
    rcases Nat.lt_or_ge (a / 10) (b / 10) with hfront | hfront
    · exact ih hfront hlt _ _
    · rw [show a / 10 = b / 10 by omega]
      apply List.append_left_lt
      exact List.cons_lt_cons_iff.mpr (.inl (digitChar_lt _ (by omega) _ (by omega)))

/-- Digits are read up to the greatest length or to what is no digit. -/
lemma number?_append {least most : Nat} {ds rest : List Char} (hds : ∀ c ∈ ds, c.isDigit = true)
    (hleast : least ≤ ds.length) (hmost : ds.length ≤ most)
    (hend : ds.length = most ∨ ∀ c ∈ rest.head?, digit? c = none) :
    number? least most (ds ++ rest) = some (ds.foldl (fun n c => n * 10 + (c.toNat - 48)) 0, rest) := by
  have hnone : (rest.take (most - ds.length)).takeWhile (digit? · |>.isSome) = [] := by
    rcases hend with heq | hend
    · rw [heq, Nat.sub_self]
      rfl
    · cases rest with
      | nil => simp
      | cons c cs =>
        cases hn : most - ds.length with
        | zero => rfl
        | succ n => simp [List.take, hend c rfl]
  have hread : ((ds ++ rest).take most).takeWhile (digit? · |>.isSome) = ds := by
    rw [List.take_append, List.take_of_length_le hmost,
      List.takeWhile_append_of_pos fun c hc => digit?_isSome_of_isDigit (hds c hc), hnone, List.append_nil]
  simp only [number?, hread, if_neg (Nat.not_lt.mpr hleast), List.drop_left]

lemma number?_padded {w : Nat} (hw : 0 < w) {n : Nat} (h : n < 10 ^ w) (rest : List Char) :
    number? w w (padded w n ++ rest) = some (n, rest) := by
  have hlength := length_padded hw h
  rw [number?_append (fun c hc => isDigit_of_mem_padded hc) hlength.ge hlength.le (.inl hlength), foldl_padded hw h]

/-! ### Texts as fields -/

/-- Numbers of given widths, each with a character behind it. -/
def written : List (Nat × Char) → List Nat → List Char
  | (w, c) :: layout, n :: ns => padded w n ++ c :: written layout ns
  | _, _ => []

/-- No number is wider than its field. -/
def Fitting (layout : List (Nat × Char)) (ns : List Nat) : Prop :=
  List.Forall₂ (fun field n => 0 < field.1 ∧ n < 10 ^ field.1) layout ns

lemma written_lt {layout : List (Nat × Char)} {ns ms : List Nat} (hn : Fitting layout ns) (hm : Fitting layout ms)
    (h : ns < ms) : written layout ns < written layout ms := by
  induction hn generalizing ms with
  | nil => cases hm; exact absurd h (List.not_lt_nil _)
  | @cons field n layout ns hfield hrest ih =>
    cases hm with
    | @cons _ m _ ms hfield' hrest' =>
      rcases List.cons_lt_cons_iff.mp h with hlt | ⟨rfl, hlt⟩
      · exact padded_lt hfield.1 hlt hfield'.2 _ _
      · exact List.append_left_lt (List.cons_lt_cons_iff.mpr (.inr ⟨rfl, ih hrest' hlt⟩))

/-- Year, month, day, hour, minute, second and microseconds. -/
def layout : List (Nat × Char) := [(4, '-'), (2, '-'), (2, 'T'), (2, ':'), (2, ':'), (2, '.'), (6, 'Z')]

/-- The numbers in the text of an instant. -/
def values (t : Time) : List Nat :=
  let d := Date.ofDays (t.seconds / 86400)
  let s := (t.seconds % 86400).toNat
  [d.year.toNat, d.month, d.day, s / 3600, s / 60 % 60, s % 60 + if 1000000000 ≤ t.nanos then 1 else 0,
    t.nanos % 1000000000 / 1000]

/-- An instant of the years from 0 to 9999. A leap second is the last one of its minute. -/
structure Recordable (t : Time) : Prop where
  year : 0 ≤ (Date.ofDays (t.seconds / 86400)).year ∧ (Date.ofDays (t.seconds / 86400)).year ≤ 9999
  nanos : t.nanos < 1000000000 ∨ t.nanos < 2000000000 ∧ t.seconds % 60 = 59

/-- The instant to the microsecond. -/
def cut (t : Time) : Time := ⟨t.seconds, t.nanos / 1000 * 1000⟩

lemma microText_eq {t : Time} (h : t.Recordable) : t.microText = String.ofList (written layout t.values) := by
  simp only [microText, secondChars, yearChars, if_pos h.year, written, layout, values, List.append_assoc,
    List.cons_append]

lemma fitting_values {t : Time} (h : t.Recordable) : Fitting layout t.values := by
  have hvalid := Date.isValid_ofDays (t.seconds / 86400)
  have hmonth := Date.month_of_isValid hvalid
  have hday := Date.day_of_isValid hvalid
  have hyear := h.year
  simp only [Fitting, layout, values, List.forall₂_cons, List.forall₂_nil_left_iff, and_true]
  split <;> omega

/-! ### Order -/

/-- A later second of the day is later by the clock. What a leap second adds is added at the end of a minute. -/
lemma clock_lt {x y leap : Nat} (h : x < y) (hleap : leap = 0 ∨ leap = 1 ∧ x % 60 = 59) (leap' : Nat) :
    x / 3600 < y / 3600 ∨ x / 3600 = y / 3600 ∧
      (x / 60 % 60 < y / 60 % 60 ∨ x / 60 % 60 = y / 60 % 60 ∧ x % 60 + leap < y % 60 + leap') := by
  rcases Nat.lt_or_ge (x / 3600) (y / 3600) with hhour | hhour
  · exact .inl hhour
  · have hhours : x / 3600 = y / 3600 := by omega
    refine .inr ⟨hhours, ?_⟩
    rcases Nat.lt_or_ge (x / 60 % 60) (y / 60 % 60) with hminute | hminute
    · exact .inl hminute
    · have hminutes : x / 60 = y / 60 := by omega
      exact .inr ⟨by rw [hminutes], by omega⟩

lemma values_lt {a b : Time} (ha : a.Recordable) (hb : b.Recordable)
    (h : a.seconds < b.seconds ∨ a.seconds = b.seconds ∧ a.nanos / 1000 < b.nanos / 1000) : a.values < b.values := by
  simp only [values, List.cons_lt_cons_iff, List.lt_irrefl, and_false, or_false]
  rcases Int.lt_or_le (a.seconds / 86400) (b.seconds / 86400) with hday | hday
  · have hbefore := Date.ofDays_before hday
    have hyear := ha.year
    have hyear' := hb.year
    unfold Date.Before at hbefore
    omega
  · have hsame : a.seconds / 86400 = b.seconds / 86400 := by omega
    rw [hsame]
    refine .inr ⟨rfl, .inr ⟨rfl, .inr ⟨rfl, ?_⟩⟩⟩
    rcases h with hseconds | ⟨hseconds, hmicros⟩
    · have hleap := ha.nanos
      have hclock := clock_lt (show (a.seconds % 86400).toNat < (b.seconds % 86400).toNat by omega)
        (show (if 1000000000 ≤ a.nanos then 1 else 0) = 0 ∨
          (if 1000000000 ≤ a.nanos then 1 else 0) = 1 ∧ (a.seconds % 86400).toNat % 60 = 59 by split <;> omega)
        (if 1000000000 ≤ b.nanos then 1 else 0)
      exact hclock.imp_right (And.imp_right (Or.imp_right (And.imp_right .inl)))
    · have hnanos := ha.nanos
      have hnanos' := hb.nanos
      rw [hseconds]
      refine .inr ⟨rfl, .inr ⟨rfl, ?_⟩⟩
      split_ifs <;> omega

lemma values_cut (t : Time) : t.cut.values = t.values := by
  have hleap : 1000000000 ≤ t.nanos / 1000 * 1000 ↔ 1000000000 ≤ t.nanos := by omega
  have hmicros : t.nanos / 1000 * 1000 % 1000000000 / 1000 = t.nanos % 1000000000 / 1000 := by omega
  simp only [values, cut, hleap, hmicros]

lemma cut_eq {t : Time} (h : t.nanos % 1000 = 0) : t.cut = t := by
  obtain ⟨seconds, nanos⟩ := t
  simp only [cut, mk.injEq, true_and]
  exact Nat.div_mul_cancel (Nat.dvd_of_mod_eq_zero h)

lemma le_iff {a b : Time} :
    le a b = true ↔ a.seconds < b.seconds ∨ a.seconds = b.seconds ∧ a.nanos ≤ b.nanos := by simp [le]

lemma le_refl (t : Time) : le t t = true := le_iff.mpr (.inr ⟨rfl, Nat.le_refl _⟩)

lemma le_trans {a b c : Time} (hab : le a b = true) (hbc : le b c = true) : le a c = true := by
  rw [le_iff] at *
  omega

lemma le_total (a b : Time) : (le a b || le b a) = true := by
  rw [Bool.or_eq_true, le_iff, le_iff]
  omega

lemma le_latest_left (a b : Time) : le a (latest a b) = true := by
  unfold latest
  split
  · assumption
  · exact le_refl a

lemma le_latest_right (a b : Time) : le b (latest a b) = true := by
  have htotal := le_total a b
  unfold latest
  split
  · exact le_refl b
  · rename_i h
    rwa [Bool.eq_false_of_not_eq_true h, Bool.false_or] at htotal

lemma latest_eq_or (a b : Time) : latest a b = a ∨ latest a b = b := by
  unfold latest
  split
  · exact .inr rfl
  · exact .inl rfl

/-- The latest of some instants is one of them, and none is later. -/
lemma foldl_latest (t : Time) (ts : List Time) :
    ts.foldl latest t ∈ t :: ts ∧ ∀ x ∈ t :: ts, le x (ts.foldl latest t) = true := by
  induction ts generalizing t with
  | nil => exact ⟨List.mem_cons_self, fun x hx => List.mem_singleton.mp hx ▸ le_refl t⟩
  | cons u ts ih =>
    obtain ⟨hmem, hle⟩ := ih (latest t u)
    have hlatest := hle _ List.mem_cons_self
    refine ⟨?_, ?_⟩
    · rcases List.mem_cons.mp hmem with heq | hmem
      · rw [List.foldl_cons, heq]
        rcases latest_eq_or t u with h | h <;> simp [h]
      · exact List.mem_cons_of_mem _ (List.mem_cons_of_mem _ hmem)
    · intro x hx
      rcases List.mem_cons.mp hx with rfl | hx
      · exact le_trans (le_latest_left x u) hlatest
      · rcases List.mem_cons.mp hx with rfl | hx
        · exact le_trans (le_latest_right t x) hlatest
        · exact hle x (List.mem_cons_of_mem _ hx)

lemma le_antisymm {a b : Time} (hab : le a b = true) (hba : le b a = true) : a = b := by
  obtain ⟨s, n⟩ := a
  obtain ⟨s', n'⟩ := b
  rw [le_iff] at hab hba
  rw [mk.injEq]
  dsimp only at *
  omega

lemma le_cut_iff {a b : Time} :
    le a.cut b.cut = true ↔ a.seconds < b.seconds ∨ a.seconds = b.seconds ∧ a.nanos / 1000 ≤ b.nanos / 1000 := by
  rw [le_iff]
  simp only [cut]
  omega

/-- Texts are in the order of their instants to the microsecond. -/
theorem microText_lt_iff {a b : Time} (ha : a.Recordable) (hb : b.Recordable) :
    a.microText < b.microText ↔ le b.cut a.cut = false := by
  have hwritten : ∀ {a b : Time}, a.Recordable → b.Recordable →
      (a.seconds < b.seconds ∨ a.seconds = b.seconds ∧ a.nanos / 1000 < b.nanos / 1000) →
        a.microText < b.microText := by
    intro a b ha hb h
    rw [microText_eq ha, microText_eq hb, String.lt_iff_toList_lt, String.toList_ofList, String.toList_ofList]
    exact written_lt (fitting_values ha) (fitting_values hb) (values_lt ha hb h)
  rw [← Bool.not_eq_true, le_cut_iff]
  constructor
  · intro hlt hle
    rcases Int.lt_or_le b.seconds a.seconds with h | h
    · exact String.lt_irrefl _ (String.lt_trans hlt (hwritten hb ha (.inl h)))
    · rcases Nat.lt_or_ge (b.nanos / 1000) (a.nanos / 1000) with hn | hn
      · exact String.lt_irrefl _ (String.lt_trans hlt (hwritten hb ha (.inr ⟨by omega, hn⟩)))
      · -- the same instant to the microsecond
        have hsame : a.values = b.values := by
          rw [← values_cut a, ← values_cut b, cut, cut, show a.seconds = b.seconds by omega,
            show a.nanos / 1000 = b.nanos / 1000 by omega]
        rw [microText_eq ha, microText_eq hb, hsame] at hlt
        exact String.lt_irrefl _ hlt
  · intro hle
    exact hwritten ha hb (by omega)

/-! ### Number -/

/-- An instant that its text keeps in full. -/
def Exact (t : Time) : Prop := t.Recordable ∧ t.nanos % 1000 = 0

lemma Recordable.exact_cut {t : Time} (h : t.Recordable) : t.cut.Exact := by
  obtain ⟨hyear, hnanos⟩ := h
  refine ⟨⟨hyear, ?_⟩, ?_⟩
  · simp only [cut]
    omega
  · simp only [cut]
    omega

lemma microText_cut {t : Time} (h : t.Recordable) : t.cut.microText = t.microText := by
  rw [microText_eq h.exact_cut.1, microText_eq h, values_cut]

lemma Exact.cut_eq {t : Time} (h : t.Exact) : t.cut = t := Time.cut_eq h.2

lemma Recordable.seconds_bounds {t : Time} (h : t.Recordable) :
    -62167219200 ≤ t.seconds ∧ t.seconds < 253402300800 := by
  have hdays := Date.days_bounds h.year
  omega

/-- The number of an exact instant among those of its years, room being left for a leap second in every second. -/
def serial (t : Time) : Nat := (t.seconds + 62167219200).toNat * 2000000 + t.nanos / 1000

lemma Exact.serial_lt {t : Time} (h : t.Exact) : t.serial < 2 ^ 60 := by
  have hseconds := h.1.seconds_bounds
  have hnanos := h.1.nanos
  unfold serial
  omega

lemma Exact.serial_inj {a b : Time} (ha : a.Exact) (hb : b.Exact) (h : a.serial = b.serial) : a = b := by
  have hseconds := ha.1.seconds_bounds
  have hseconds' := hb.1.seconds_bounds
  have hnanos := ha.1.nanos
  have hnanos' := hb.1.nanos
  have hmicros := ha.2
  have hmicros' := hb.2
  unfold serial at h
  obtain ⟨s, n⟩ := a
  obtain ⟨s', n'⟩ := b
  dsimp only at *
  rw [mk.injEq]
  omega

/-- There are not more than `2 ^ 60` exact instants. -/
lemma length_le_of_exact {ts : List Time} (hexact : ∀ t ∈ ts, t.Exact) (hdistinct : ts.Nodup) : ts.length ≤ 2 ^ 60 := by
  have hnodup : (ts.map serial).Nodup :=
    List.Nodup.map_on (fun a ha b hb h => (hexact a ha).serial_inj (hexact b hb) h) hdistinct
  have hsubset : (ts.map serial).toFinset ⊆ Finset.range (2 ^ 60) := by
    intro n hn
    obtain ⟨t, ht, rfl⟩ := List.mem_map.mp (List.mem_toFinset.mp hn)
    exact Finset.mem_range.mpr (hexact t ht).serial_lt
  have hcard := Finset.card_le_card hsubset
  rwa [List.toFinset_card_of_nodup hnodup, List.length_map, Finset.card_range] at hcard

/-! ### Reading -/

/-- Go on with what has been read. -/
lemma bind_of_eq {α β : Type} {o : Option α} {a : α} {f : α → Option β} (h : o = some a) : (o >>= f) = f a := by
  rw [h]
  rfl

lemma expect?_cons (c : Char) (cs : List Char) : expect? c (c :: cs) = some cs := by simp [expect?]

/-- The numbers of an instant are a legal date and time of day, and those of the instant to the microsecond. -/
lemma toTime?_values {t : Time} (h : t.Recordable) :
    (Written.mk (Date.ofDays (t.seconds / 86400)).year.toNat (Date.ofDays (t.seconds / 86400)).month
      (Date.ofDays (t.seconds / 86400)).day ((t.seconds % 86400).toNat / 3600) ((t.seconds % 86400).toNat / 60 % 60)
      ((t.seconds % 86400).toNat % 60 + if 1000000000 ≤ t.nanos then 1 else 0)
      (t.nanos % 1000000000 / 1000 * 1000) 0).toTime? = some t.cut := by
  obtain ⟨hyear, hnanos⟩ := h
  have hvalid := Date.isValid_ofDays (t.seconds / 86400)
  have hdays := Date.toDays_ofDays (t.seconds / 86400)
  generalize hdate : Date.ofDays (t.seconds / 86400) = d at hyear hvalid hdays ⊢
  have hyears : leastYear ≤ d.year ∧ d.year ≤ greatestYear := by
    unfold leastYear greatestYear
    omega
  obtain ⟨s, hs⟩ : ∃ s, s = (t.seconds % 86400).toNat := ⟨_, rfl⟩
  have hseconds : t.seconds = d.toDays * 86400 + s := by omega
  simp only [Written.toTime?, Int.toNat_of_nonneg hyear.1, ← hs]
  by_cases hleap : 1000000000 ≤ t.nanos
  · have hlast : s % 60 = 59 := by omega
    have hsum : d.toDays * 86400 + (s / 3600 : Nat) * 3600 + (s / 60 % 60 : Nat) * 60 + (59 : Nat) - 0 =
        t.seconds := by omega
    have hcut : t.nanos % 1000000000 / 1000 * 1000 + 1000000000 = t.nanos / 1000 * 1000 := by omega
    simp only [if_pos hleap, hlast, Nat.reduceAdd, if_true, hsum, hdate, hcut]
    rw [if_pos ⟨hyears.1, hyears.2, hvalid, by omega, by omega, by omega, by decide⟩, if_pos hyears, cut]
  · have hsum : d.toDays * 86400 + (s / 3600 : Nat) * 3600 + (s / 60 % 60 : Nat) * 60 + (s % 60 : Nat) - 0 =
        t.seconds := by omega
    have hcut : t.nanos % 1000000000 / 1000 * 1000 = t.nanos / 1000 * 1000 := by omega
    simp only [if_neg hleap, Nat.add_zero, if_neg (show ¬ s % 60 = 60 by omega), hsum, hdate, hcut]
    rw [if_pos ⟨hyears.1, hyears.2, hvalid, by omega, by omega, by omega, by decide⟩, if_pos hyears, cut]

lemma fraction?_micros {n : Nat} (h : n < 10 ^ 6) :
    fraction? ('.' :: (padded 6 n ++ ['Z'])) = some (n * 1000, ['Z']) := by
  have hlength := length_padded (show 0 < 6 by decide) h
  have hread : number? 1 9 (padded 6 n ++ ['Z']) = some (n, ['Z']) := by
    rw [number?_append (fun c hc => isDigit_of_mem_padded hc) (by omega) (by omega) (.inr (by simp; rfl)),
      foldl_padded (by decide) h]
  simp only [fraction?, hread, List.length_append, hlength, List.length_singleton]
  rfl

/-- Numbers that fit their fields are read as they were written. -/
lemma parseStrict?_written {y mo d h mi s u : Nat} (hfit : Fitting layout [y, mo, d, h, mi, s, u]) :
    parseStrict? (String.ofList (written layout [y, mo, d, h, mi, s, u])) =
      (Written.mk y mo d h mi s (u * 1000) 0).toTime? := by
  simp only [Fitting, layout, List.forall₂_cons, List.forall₂_nil_left_iff, and_true] at hfit
  obtain ⟨⟨h4, hy⟩, ⟨h2, hmo⟩, ⟨-, hd⟩, ⟨-, hh⟩, ⟨-, hmi⟩, ⟨-, hs⟩, -, hu⟩ := hfit
  rw [parseStrict?, String.toList_ofList]
  simp only [written, layout]
  refine (bind_of_eq (number?_padded h4 hy _)).trans ?_
  refine (bind_of_eq (expect?_cons _ _)).trans ?_
  refine (bind_of_eq (number?_padded h2 hmo _)).trans ?_
  refine (bind_of_eq (expect?_cons _ _)).trans ?_
  refine (bind_of_eq (number?_padded h2 hd _)).trans ?_
  refine (if_pos (.inl rfl)).trans ?_
  refine (bind_of_eq rfl).trans ?_
  refine (bind_of_eq (number?_padded h2 hh _)).trans ?_
  refine (bind_of_eq (expect?_cons _ _)).trans ?_
  refine (bind_of_eq (number?_padded h2 hmi _)).trans ?_
  refine (bind_of_eq (expect?_cons _ _)).trans ?_
  refine (bind_of_eq (number?_padded h2 hs _)).trans ?_
  refine (bind_of_eq (fraction?_micros hu)).trans ?_
  rfl

/-- A text is read back as its instant to the microsecond. -/
theorem parseStrict?_microText {t : Time} (h : t.Recordable) : parseStrict? t.microText = some t.cut := by
  rw [microText_eq h, values, parseStrict?_written (fitting_values h)]
  exact toTime?_values h

end CompletionGateway.Time
