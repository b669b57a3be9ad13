import Mathlib
import CompletionGateway.Association

/-! Associations as finite maps: what a key is found with after each operation. Keys occur once in whatever is
built from the empty association. -/
namespace CompletionGateway.Association
variable {κ α : Type} [DecidableEq κ]

@[simp] lemma find?_empty (k : κ) : (empty : Association κ α).find? k = none := rfl

lemma find?_mk_cons (e : κ × α) (es : List (κ × α)) (k : κ) :
    (⟨e :: es⟩ : Association κ α).find? k = if e.1 = k then some e.2 else find? ⟨es⟩ k := by
  by_cases h : e.1 = k <;> simp [find?, h]

lemma contains_iff {m : Association κ α} {k : κ} : m.contains k = true ↔ ∃ a, m.find? k = some a := by
  obtain ⟨es⟩ := m
  induction es with
  | nil => simp [contains, find?]
  | cons e es ih =>
    rw [find?_mk_cons]
    by_cases h : e.1 = k
    · simp [contains, h]
    · simpa [contains, h] using ih

lemma contains_eq_false {m : Association κ α} {k : κ} : m.contains k = false ↔ m.find? k = none := by
  rw [← Bool.not_eq_true, contains_iff, ← Option.isSome_iff_exists, Bool.not_eq_true, Option.isSome_eq_false_iff,
    Option.isNone_iff_eq_none]

lemma find?_replace (es : List (κ × α)) (k k' : κ) (a : α) :
    (⟨es.map fun e => if e.1 = k then (k, a) else e⟩ : Association κ α).find? k' =
      if k' = k then (find? ⟨es⟩ k).map fun _ => a else find? ⟨es⟩ k' := by
  induction es with
  | nil => simp [find?]
  | cons e es ih =>
    rw [List.map_cons, find?_mk_cons, ih, find?_mk_cons, find?_mk_cons]
    by_cases he : e.1 = k
    · by_cases hk : k' = k
      · simp [he, hk]
      · simp [he, hk, Ne.symm hk]
    · by_cases hk : k' = k
      · simp [he, hk]
      · simp [he, hk]

lemma find?_append (es fs : List (κ × α)) (k : κ) :
    (⟨es ++ fs⟩ : Association κ α).find? k = (find? ⟨es⟩ k).or (find? ⟨fs⟩ k) := by
  induction es with
  | nil => simp [find?]
  | cons e es ih =>
    rw [List.cons_append, find?_mk_cons, find?_mk_cons, ih]
    by_cases h : e.1 = k <;> simp [h]

@[simp] lemma find?_insert (m : Association κ α) (k k' : κ) (a : α) :
    (m.insert k a).find? k' = if k' = k then some a else m.find? k' := by
  unfold insert
  split
  · rename_i h
    obtain ⟨b, hb⟩ := contains_iff.mp h
    rw [find?_replace, hb]
    rfl
  · rename_i h
    have hk : m.find? k = none := contains_eq_false.mp (by simpa using h)
    rw [find?_append, find?_mk_cons]
    by_cases hk' : k' = k
    · simp [hk', hk]
    · simp [hk', Ne.symm hk', find?]

@[simp] lemma find?_erase (m : Association κ α) (k k' : κ) :
    (m.erase k).find? k' = if k' = k then none else m.find? k' := by
  obtain ⟨es⟩ := m
  induction es with
  | nil => simp [erase, find?]
  | cons e es ih =>
    have hcons : erase ⟨e :: es⟩ k = if e.1 = k then erase ⟨es⟩ k else ⟨e :: (erase ⟨es⟩ k).entries⟩ := by
      by_cases h : e.1 = k <;> simp [erase, h]
    rw [hcons, find?_mk_cons]
    by_cases he : e.1 = k
    · rw [if_pos he, ih]
      by_cases hk : k' = k
      · simp [hk]
      · simp [hk, he, Ne.symm hk]
    · rw [if_neg he, find?_mk_cons, ih]
      by_cases hk : k' = k
      · simp [hk, he]
      · simp [hk]

/-! ### Keys -/

def keys (m : Association κ α) : List κ := m.entries.map (·.1)

omit [DecidableEq κ] in
@[simp] lemma length_keys (m : Association κ α) : m.keys.length = m.size := by simp [keys, size]

/-- No key occurs twice. -/
def Distinct (m : Association κ α) : Prop := m.keys.Nodup

omit [DecidableEq κ] in
lemma distinct_empty : (empty : Association κ α).Distinct := List.nodup_nil

lemma mem_keys {m : Association κ α} {k : κ} : k ∈ m.keys ↔ ∃ a, m.find? k = some a := by
  rw [← contains_iff, contains, List.any_eq_true, keys, List.mem_map]
  simp

lemma Distinct.insert {m : Association κ α} (h : m.Distinct) (k : κ) (a : α) : (m.insert k a).Distinct := by
  unfold Association.insert
  split
  · have hkeys : keys ⟨m.entries.map fun e => if e.1 = k then (k, a) else e⟩ = m.keys := by
      simp only [keys, List.map_map]
      apply List.map_congr_left
      intro e _
      by_cases he : e.1 = k <;> simp [he]
    rw [Distinct, hkeys]
    exact h
  · rename_i hk
    have hk : k ∉ m.keys := by
      rw [mem_keys, ← contains_iff]
      exact hk
    have hkeys : keys ⟨m.entries ++ [(k, a)]⟩ = m.keys ++ [k] := by simp [keys]
    rw [Distinct, hkeys, List.nodup_append_comm]
    exact List.nodup_cons.mpr ⟨by simpa using hk, h⟩

omit [DecidableEq κ] in
lemma keys_filter_sublist (m : Association κ α) (P : κ × α → Bool) :
    (keys ⟨m.entries.filter P⟩).Sublist m.keys := List.filter_sublist.map _

lemma Distinct.erase {m : Association κ α} (h : m.Distinct) (k : κ) : (m.erase k).Distinct :=
  List.Nodup.sublist (keys_filter_sublist m _) h

omit [DecidableEq κ] in
lemma Distinct.retain {m : Association κ α} (h : m.Distinct) (P : α → Bool) : (m.retain P).Distinct :=
  List.Nodup.sublist (keys_filter_sublist m _) h

/-- Where keys occur once, an entry is what its key is found with. -/
lemma Distinct.mem_iff {m : Association κ α} (h : m.Distinct) {k : κ} {a : α} :
    (k, a) ∈ m.entries ↔ m.find? k = some a := by
  obtain ⟨es⟩ := m
  induction es with
  | nil => simp [find?]
  | cons e es ih =>
    obtain ⟨hne, hes⟩ := List.nodup_cons.mp h
    rw [find?_mk_cons, List.mem_cons]
    by_cases he : e.1 = k
    · have hk : (k, a) ∉ es := fun hm => hne (List.mem_map.mpr ⟨(k, a), hm, he.symm⟩)
      simp only [hk, or_false, he, if_true, Option.some.injEq]
      exact ⟨fun h => by rw [← h], fun h => by rw [← h, ← he]⟩
    · rw [if_neg he, ← ih hes]
      constructor
      · rintro (rfl | hm)
        · exact absurd rfl he
        · exact hm
      · exact Or.inr

lemma Distinct.find?_retain {m : Association κ α} (h : m.Distinct) (P : α → Bool) (k : κ) :
    (m.retain P).find? k = (m.find? k).filter P := by
  apply Option.ext
  intro a
  rw [← (h.retain P).mem_iff, Option.filter_eq_some_iff, ← h.mem_iff]
  simp [Association.retain]

/-! ### Sizes -/

lemma size_insert (m : Association κ α) (k : κ) (a : α) :
    (m.insert k a).size = if m.contains k then m.size else m.size + 1 := by
  unfold insert
  split <;> simp [size]

lemma erase_absent {m : Association κ α} {k : κ} (h : m.find? k = none) : m.erase k = m := by
  obtain ⟨es⟩ := m
  rw [erase, mk.injEq, List.filter_eq_self]
  intro e he
  have habsent := contains_eq_false.mpr h
  rw [contains, List.any_eq_false] at habsent
  simpa using habsent e he

lemma Distinct.size_erase {m : Association κ α} (h : m.Distinct) {k : κ} {a : α} (hk : m.find? k = some a) :
    (m.erase k).size + 1 = m.size := by
  have hkeys : (m.erase k).keys = m.keys.erase k := by
    rw [List.Nodup.erase_eq_filter h, keys, keys, Association.erase, List.filter_map]
    congr 1
    apply List.filter_congr
    intro e _
    by_cases he : e.1 = k <;> simp [he]
  rw [← length_keys, ← length_keys, hkeys]
  exact List.length_erase_add_one (mem_keys.mpr ⟨a, hk⟩)

/-- There are no more entries than keys that may be found. -/
lemma Distinct.size_le_card {m : Association κ α} (h : m.Distinct) {s : Finset κ}
    (hfound : ∀ {k a}, m.find? k = some a → k ∈ s) : m.size ≤ s.card := by
  rw [← length_keys, ← List.toFinset_card_of_nodup h]
  apply Finset.card_le_card
  intro k hk
  obtain ⟨a, ha⟩ := mem_keys.mp (List.mem_toFinset.mp hk)
  exact hfound ha

omit [DecidableEq κ] in
lemma size_retain_le (m : Association κ α) (P : α → Bool) : (m.retain P).size ≤ m.size := List.length_filter_le _ _

omit [DecidableEq κ] in
/-- If as many entries are kept as there are, all of them are. -/
lemma retain_eq_self {m : Association κ α} {P : α → Bool} (h : m.size ≤ (m.retain P).size) : m.retain P = m := by
  obtain ⟨es⟩ := m
  exact congrArg mk ((List.filter_sublist).eq_of_length_le h)

end CompletionGateway.Association
