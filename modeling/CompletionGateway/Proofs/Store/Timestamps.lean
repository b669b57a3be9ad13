import CompletionGateway.Proofs.Store.Relational
import CompletionGateway.Proofs.Text.Utf8

/-! Times in tables. As texts of one width they are in the order of the instants to the microsecond, compared character by
character or byte by byte, so that a greatest text is that of the latest instant and rows sorted by their texts are sorted
by time. Each text is read back as its instant to the microsecond. -/
namespace CompletionGateway

/-! ### Bytes of ASCII texts -/

namespace Text.Utf8

lemma byte_lt_iff {c d : Char} (hc : c.toNat < 0x80) (hd : d.toNat < 0x80) :
    UInt8.ofNat c.toNat < UInt8.ofNat d.toNat ↔ c < d := by
  rw [lt_iff (by omega), UInt8.toNat_ofNat_of_lt' (show d.toNat < 256 by omega)]
  exact UInt32.lt_iff_toNat_lt.symm

lemma byte_inj {c d : Char} (hc : c.toNat < 0x80) (hd : d.toNat < 0x80) :
    UInt8.ofNat c.toNat = UInt8.ofNat d.toNat ↔ c = d := by
  rw [eq_iff (by omega), UInt8.toNat_ofNat_of_lt' (show d.toNat < 256 by omega)]
  exact Char.toNat_inj

/-- Bytes of ASCII texts are in the order of the texts. -/
lemma encoded_lt_iff {cs ds : List Char} (hcs : ∀ c ∈ cs, c.toNat < 0x80) (hds : ∀ d ∈ ds, d.toNat < 0x80) :
    encoded cs < encoded ds ↔ cs < ds := by
  induction cs generalizing ds with
  | nil =>
    cases ds with
    | nil => simp
    | cons d ds => simp [encoded_cons_ascii (hds d List.mem_cons_self)]
  | cons c cs ih =>
    have hc := hcs c List.mem_cons_self
    cases ds with
    | nil => simp
    | cons d ds =>
      have hd := hds d List.mem_cons_self
      have hrest := ih (fun x hx => hcs x (List.mem_cons_of_mem _ hx)) fun x hx => hds x (List.mem_cons_of_mem _ hx)
      rw [encoded_cons_ascii hc, encoded_cons_ascii hd, List.cons_lt_cons_iff, List.cons_lt_cons_iff,
        byte_lt_iff hc hd, byte_inj hc hd, hrest]

end Text.Utf8

/-! ### Comparing -/

namespace Time
variable {a b : Time}

/-- Which of two instants is the earlier. -/
def order (a b : Time) : Ordering := (compare a.seconds b.seconds).then (compare a.nanos b.nanos)

lemma order_eq_lt : a.order b = .lt ↔ le b a = false := by
  rw [order, Ordering.then_eq_lt, Int.compare_eq_lt, Int.compare_eq_eq, Nat.compare_eq_lt, ← Bool.not_eq_true, le_iff]
  omega

lemma order_eq_eq : a.order b = .eq ↔ a = b := by
  obtain ⟨s, n⟩ := a
  obtain ⟨s', n'⟩ := b
  simp [order, Ordering.then_eq_eq]

/-- What is in the order of the instants is compared as they are. -/
lemma compareOfLessAndEq_eq_order {α : Type} [LT α] [DecidableLT α] [DecidableEq α] {x y : α}
    (hlt : x < y ↔ le b a = false) (heq : x = y ↔ a = b) : compareOfLessAndEq x y = a.order b := by
  unfold compareOfLessAndEq
  split
  · exact (order_eq_lt.mpr (hlt.mp ‹_›)).symm
  · split
    · exact (order_eq_eq.mpr (heq.mp ‹_›)).symm
    · cases horder : a.order b with
      | lt => exact absurd (hlt.mpr (order_eq_lt.mp horder)) ‹_›
      | eq => exact absurd (heq.mpr (order_eq_eq.mp horder)) ‹_›
      | gt => rfl

lemma microText_inj (ha : a.Recordable) (hb : b.Recordable) : a.microText = b.microText ↔ a.cut = b.cut := by
  constructor
  · intro h
    have hread := parseStrict?_microText ha
    rw [h, parseStrict?_microText hb] at hread
    exact (Option.some.inj hread).symm
  · intro h
    rw [← microText_cut ha, ← microText_cut hb, h]

lemma compare_microText (ha : a.Recordable) (hb : b.Recordable) :
    compareOfLessAndEq a.microText b.microText = a.cut.order b.cut :=
  compareOfLessAndEq_eq_order (microText_lt_iff ha hb) (microText_inj ha hb)

/-- Digits are of one byte each. -/
lemma ascii_written {layout : List (Nat × Char)} (hlayout : ∀ f ∈ layout, f.2.toNat < 0x80) (ns : List Nat) :
    ∀ c ∈ written layout ns, c.toNat < 0x80 := by
  induction layout generalizing ns with
  | nil => simp [written]
  | cons f layout ih =>
    cases ns with
    | nil => simp [written]
    | cons n ns =>
      intro c hc
      rw [written, List.mem_append, List.mem_cons] at hc
      rcases hc with hc | rfl | hc
      · have hdigit := isDigit_of_mem_padded hc
        simp only [Char.isDigit, Bool.and_eq_true, decide_eq_true_eq, UInt32.le_iff_toNat_le] at hdigit
        exact hdigit.2.trans_lt (by decide)
      · exact hlayout f List.mem_cons_self
      · exact ih (fun g hg => hlayout g (List.mem_cons_of_mem _ hg)) ns c hc

lemma ascii_microText (ha : a.Recordable) : ∀ c ∈ a.microText.toList, c.toNat < 0x80 := by
  rw [microText_eq ha, String.toList_ofList]
  exact ascii_written (by decide) a.values

lemma compare_bytes (ha : a.Recordable) (hb : b.Recordable) :
    compareOfLessAndEq (Text.utf8 a.microText) (Text.utf8 b.microText) = a.cut.order b.cut := by
  apply compareOfLessAndEq_eq_order
  · rw [Text.utf8_eq_encoded, Text.utf8_eq_encoded, Text.Utf8.encoded_lt_iff (ascii_microText ha) (ascii_microText hb),
      ← String.lt_iff_toList_lt]
    exact microText_lt_iff ha hb
  · rw [Text.utf8_injective.eq_iff]
    exact microText_inj ha hb

end Time

/-! ### Rows -/

namespace Store

/-- Records and the texts of their times. What the texts say of any two of the records, or of all of them in order, their
times to the microsecond say. -/
structure TellTime {α : Type} (time : α → Time) (xs : List α) : Prop where
  compared : ∀ x ∈ xs, ∀ y ∈ xs,
    compareOfLessAndEq (time x).microText (time y).microText = (time x).cut.order (time y).cut
  bytes : ∀ x ∈ xs, ∀ y ∈ xs,
    compareOfLessAndEq (Text.utf8 (time x).microText) (Text.utf8 (time y).microText) = (time x).cut.order (time y).cut
  latest : ∀ x ∈ xs, ∀ y ∈ xs,
    Relational.maxText (time x).microText (time y).microText = (Time.latest (time x).cut (time y).cut).microText
  ascending : xs.mergeSort (fun x y => !((time y).microText < (time x).microText)) =
    xs.mergeSort fun x y => Time.le (time x).cut (time y).cut
  descending : xs.mergeSort (fun x y => !((time x).microText < (time y).microText)) =
    xs.mergeSort fun x y => Time.le (time y).cut (time x).cut
  read : ∀ x ∈ xs, readTime (time x).microText = .ok (time x).cut

lemma mergeSort_congr {α : Type} {le le' : α → α → Bool} {xs : List α} (h : ∀ x ∈ xs, ∀ y ∈ xs, le x y = le' x y) :
    xs.mergeSort le = xs.mergeSort le' := by
  have hsort := List.map_mergeSort (f := id) h
  rwa [List.map_id, List.map_id] at hsort

lemma not_microText_lt {a b : Time} (ha : a.Recordable) (hb : b.Recordable) :
    (!decide (a.microText < b.microText)) = Time.le b.cut a.cut := by
  have hlt := Time.microText_lt_iff ha hb
  cases hle : Time.le b.cut a.cut <;> simp [hlt, hle]

/-- In the years from 0 to 9999 texts tell the time. -/
theorem texts_tell_time {α : Type} (time : α → Time) (xs : List α) (h : ∀ x ∈ xs, (time x).Recordable) :
    TellTime time xs where
  compared x hx y hy := Time.compare_microText (h x hx) (h y hy)
  bytes x hx y hy := Time.compare_bytes (h x hx) (h y hy)
  latest x hx y hy := by
    rw [← Time.microText_cut (h x hx), ← Time.microText_cut (h y hy)]
    exact maxText_microText (h x hx).exact_cut.1 (h y hy).exact_cut.1
  ascending := by
    apply mergeSort_congr
    intro x hx y hy
    exact not_microText_lt (h y hy) (h x hx)
  descending := by
    apply mergeSort_congr
    intro x hx y hy
    exact not_microText_lt (h x hx) (h y hy)
  read x hx := readTime_microText (h x hx)

/-- The first and the last nanosecond of the ten thousand years, the last one before 1970, and a leap day. -/
def corners : List Time :=
  [⟨253402300799, 999999999⟩, ⟨951782400, 1999⟩, ⟨-1, 999999999⟩, ⟨951782400, 1000⟩, ⟨-62167219200, 0⟩]

theorem texts_tell_time_corners : (∀ t ∈ corners, t.Recordable) ∧ TellTime id corners ∧
    corners.map (·.microText) = ["9999-12-31T23:59:59.999999Z", "2000-02-29T00:00:00.000001Z",
      "1969-12-31T23:59:59.999999Z", "2000-02-29T00:00:00.000001Z", "0000-01-01T00:00:00.000000Z"] := by
  have h : ∀ t ∈ corners, t.Recordable := by
    intro t ht
    simp only [corners, List.mem_cons, List.not_mem_nil, or_false] at ht
    rcases ht with rfl | rfl | rfl | rfl | rfl <;> exact ⟨by decide, by decide⟩
  exact ⟨h, texts_tell_time id corners h, by decide +kernel⟩

end Store
end CompletionGateway
