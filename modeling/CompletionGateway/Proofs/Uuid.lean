import CompletionGateway.Proofs.Numeric.Places
import CompletionGateway.Uuid

/-! An identifier is read back from its text. -/
namespace CompletionGateway.Uuid

lemma hexDigit?_hexDigit : ∀ n < 16, hexDigit? (hexDigit n) = some n := by decide

/-- The values of the 32 digits. -/
def nibbles (u : Uuid) : List Nat := (List.range 32).map fun i => u.bits.toNat / 16 ^ (31 - i) % 16

lemma mapM_hexDigit {ns : List Nat} (h : ∀ n ∈ ns, n < 16) : (ns.map hexDigit).mapM hexDigit? = some ns := by
  induction ns with
  | nil => rfl
  | cons n ns ih =>
    rw [List.map_cons, List.mapM_cons, hexDigit?_hexDigit n (h n List.mem_cons_self),
      ih fun m hm => h m (List.mem_cons_of_mem _ hm)]
    rfl

lemma digits_eq (u : Uuid) : u.digits = u.nibbles.map hexDigit := by
  rw [digits, nibbles, List.map_map]
  rfl

lemma ofDigits?_digits (u : Uuid) : ofDigits? u.digits = some u := by
  have hlt : ∀ n ∈ u.nibbles, n < 16 := by
    intro n hn
    obtain ⟨i, -, rfl⟩ := List.mem_map.mp hn
    exact Nat.mod_lt _ (by omega)
  have hvalue : u.nibbles.foldl (fun n d => n * 16 + d) 0 = u.bits.toNat := by
    have hlt : u.bits.toNat < 16 ^ 32 := u.bits.isLt
    exact Numeric.foldl_all_places hlt
  rw [ofDigits?, if_pos (by rw [digits, List.length_map, List.length_range]), digits_eq, mapM_hexDigit hlt,
    Option.map_some, hvalue, BitVec.ofNat_toNat, BitVec.setWidth_eq]

theorem parse?_text (u : Uuid) : parse? u.text = some u := by
  have hchars : ofChars? u.chars = ofDigits? u.digits := rfl
  rw [parse?, text, String.toList_ofList, hchars, ofDigits?_digits]

theorem text_injective : Function.Injective text := by
  intro u v h
  have hu := parse?_text u
  rw [h, parse?_text] at hu
  exact (Option.some.inj hu).symm

end CompletionGateway.Uuid
