import CompletionGateway.Json.Value
import CompletionGateway.Proofs.Text.Utf8

/-! String literals are read back from their texts. Each character is one escape or its own bytes. -/
namespace CompletionGateway.Json
open Text.Utf8

/-- The characters that are written as an escape. -/
def isEscaped (c : Char) : Bool := c = '"' || c = '\\' || c.toNat < 32

/-- What is read of a character. -/
def unitsOf (c : Char) : List StringUnit :=
  if isEscaped c then [.code c.toNat] else (String.utf8EncodeChar c).map .byte

lemma escapeChar_eq_self {c : Char} (h : isEscaped c = false) : escapeChar c = [c] := by
  simp only [isEscaped, Bool.or_eq_false_iff, decide_eq_false_iff_not] at h
  obtain ⟨⟨hquote, hslash⟩, hcontrol⟩ := h
  unfold escapeChar
  rw [if_neg hquote, if_neg hslash, if_neg (by omega), if_neg (by omega), if_neg (by omega), if_neg (by omega),
    if_neg (by omega), if_neg hcontrol]

lemma hexDigitChar_lt : ∀ n < 16, (hexDigitChar n).toNat < 0x80 := by decide

lemma hexCode?_hexDigitChar : ∀ n < 32, hexCode? 48 48 (UInt8.ofNat (hexDigitChar (n / 16)).toNat)
    (UInt8.ofNat (hexDigitChar (n % 16)).toNat) = some n := by decide

lemma stringUnits_byte {b : UInt8} (hquote : b ≠ 34) (hslash : b ≠ 92) (hcontrol : 32 ≤ b) (rest : List UInt8)
    (acc : List StringUnit) : stringUnits (b :: rest) acc = stringUnits rest (.byte b :: acc) := by
  have hb : ¬ b < 32 := by
    rw [UInt8.not_lt]
    exact hcontrol
  rw [stringUnits] <;> simp [hquote, hslash, hb]

lemma stringUnits_bytes {bytes : List UInt8} (h : ∀ b ∈ bytes, b ≠ 34 ∧ b ≠ 92 ∧ 32 ≤ b) (rest : List UInt8)
    (acc : List StringUnit) :
    stringUnits (bytes ++ rest) acc = stringUnits rest ((bytes.map StringUnit.byte).reverse ++ acc) := by
  induction bytes generalizing acc with
  | nil => rfl
  | cons b bytes ih =>
    obtain ⟨hquote, hslash, hcontrol⟩ := h b List.mem_cons_self
    rw [List.cons_append, stringUnits_byte hquote hslash hcontrol, ih fun b' hb' => h b' (List.mem_cons_of_mem _ hb')]
    simp

/-- An unescaped character is read as its bytes. -/
lemma stringUnits_unescaped {c : Char} (h : isEscaped c = false) (rest : List UInt8) (acc : List StringUnit) :
    stringUnits (String.utf8EncodeChar c ++ rest) acc =
      stringUnits rest (((String.utf8EncodeChar c).map StringUnit.byte).reverse ++ acc) := by
  apply stringUnits_bytes
  intro b hb
  by_cases hc : c.toNat < 0x80
  · simp only [isEscaped, Bool.or_eq_false_iff, decide_eq_false_iff_not] at h
    obtain ⟨⟨hquote, hslash⟩, hcontrol⟩ := h
    rw [encoded_ascii hc] at hb
    obtain rfl := List.mem_singleton.mp hb
    have hvalue : (UInt8.ofNat c.toNat).toNat = c.toNat := UInt8.toNat_ofNat_of_lt' (by show _ < 256; omega)
    refine ⟨?_, ?_, ?_⟩
    · intro heq
      apply hquote
      apply Char.toNat_inj.mp
      rw [← hvalue, heq]
      rfl
    · intro heq
      apply hslash
      apply Char.toNat_inj.mp
      rw [← hvalue, heq]
      rfl
    · rw [UInt8.le_iff_toNat_le, hvalue]
      exact Nat.le_of_not_lt hcontrol
  · have hb := le_of_mem_encoded (Nat.le_of_not_lt hc) hb
    refine ⟨?_, ?_, ?_⟩
    · rintro rfl
      exact absurd hb (by decide)
    · rintro rfl
      exact absurd hb (by decide)
    · rw [UInt8.le_iff_toNat_le]
      exact Nat.le_trans (by decide) hb

lemma stringUnits_escapeChar (c : Char) (rest : List UInt8) (acc : List StringUnit) :
    stringUnits (encoded (escapeChar c) ++ rest) acc = stringUnits rest ((unitsOf c).reverse ++ acc) := by
  cases h : isEscaped c with
  | false =>
    rw [escapeChar_eq_self h, unitsOf, h, encoded_cons, encoded_nil, List.append_nil]
    exact stringUnits_unescaped h rest acc
  | true =>
    rw [unitsOf, h]
    unfold escapeChar
    -- the characters with a letter
    iterate 7
      split
      · rename_i hc
        rw [hc]
        rfl
    split
    · rename_i hc
      have hhigh : c.toNat / 16 < 16 := by omega
      have hlow : c.toNat % 16 < 16 := by omega
      have hescape : encoded ['\\', 'u', '0', '0', hexDigitChar (c.toNat / 16), hexDigitChar (c.toNat % 16)] =
          [92, 117, 48, 48, UInt8.ofNat (hexDigitChar (c.toNat / 16)).toNat,
            UInt8.ofNat (hexDigitChar (c.toNat % 16)).toNat] := by
        simp only [encoded_cons_ascii (hexDigitChar_lt _ hhigh), encoded_cons_ascii (hexDigitChar_lt _ hlow),
          encoded_cons, encoded_nil]
        rfl
      rw [hescape]
      simp only [List.cons_append, List.nil_append]
      rw [stringUnits, hexCode?_hexDigitChar _ hc]
      rfl
    · rename_i hquote hslash _ _ _ _ _ hcontrol
      simp [isEscaped, hquote, hslash, hcontrol] at h

/-- The literal of a text is read up to its closing quote. -/
theorem stringUnits_encoded (s : String) (rest : List UInt8) :
    stringUnits (encoded (s.toList.flatMap escapeChar ++ ['"']) ++ rest) [] =
      some (s.toList.flatMap unitsOf, rest) := by
  suffices h : ∀ (cs : List Char) (acc : List StringUnit),
      stringUnits (encoded (cs.flatMap escapeChar ++ ['"']) ++ rest) acc =
        some (acc.reverse ++ cs.flatMap unitsOf, rest) by
    simpa using h s.toList []
  intro cs
  induction cs with
  | nil =>
    intro acc
    rw [List.flatMap_nil, List.flatMap_nil, List.append_nil acc.reverse]
    rfl
  | cons c cs ih =>
    intro acc
    have hcons := stringUnits_escapeChar c (encoded (cs.flatMap escapeChar ++ ['"']) ++ rest) acc
    rw [← List.append_assoc, ← encoded_append] at hcons
    rw [List.flatMap_cons, List.append_assoc, hcons, ih]
    simp

/-! ### What the units spell -/

lemma push_bytes (bytes : List UInt8) (acc : List UInt8) :
    (bytes.map StringUnit.byte).foldl Assembly.push ⟨acc, none, true⟩ = ⟨bytes.reverse ++ acc, none, true⟩ := by
  induction bytes generalizing acc with
  | nil => rfl
  | cons b bytes ih =>
    rw [List.map_cons, List.foldl_cons]
    have hb : Assembly.push ⟨acc, none, true⟩ (.byte b) = ⟨b :: acc, none, true⟩ := rfl
    rw [hb, ih]
    simp

lemma push_unitsOf (c : Char) (acc : List UInt8) :
    (unitsOf c).foldl Assembly.push ⟨acc, none, true⟩ = ⟨(String.utf8EncodeChar c).reverse ++ acc, none, true⟩ := by
  cases h : isEscaped c with
  | false =>
    rw [unitsOf, h]
    exact push_bytes _ acc
  | true =>
    have hc : c.toNat < 0x80 := by
      simp only [isEscaped, Bool.or_eq_true, decide_eq_true_eq] at h
      rcases h with (rfl | rfl) | h
      · decide
      · decide
      · omega
    rw [unitsOf, h]
    simp only [if_true, List.foldl_cons, List.foldl_nil, Assembly.push, Assembly.pushChar, Char.ofNat_toNat]
    have hlow : (decide (0xDC00 ≤ c.toNat) && decide (c.toNat ≤ 0xDFFF)) = false := by
      simp only [Bool.and_eq_false_iff, decide_eq_false_iff_not]
      omega
    have hhigh : (decide (0xD800 ≤ c.toNat) && decide (c.toNat ≤ 0xDBFF)) = false := by
      simp only [Bool.and_eq_false_iff, decide_eq_false_iff_not]
      omega
    rw [hlow, hhigh]
    rfl

/-- The literal of a text spells that text. -/
theorem assemble_unitsOf (s : String) : assemble (s.toList.flatMap unitsOf) = some s := by
  have h : ∀ (cs : List Char) (acc : List UInt8), (cs.flatMap unitsOf).foldl Assembly.push ⟨acc, none, true⟩ =
      ⟨(encoded cs).reverse ++ acc, none, true⟩ := by
    intro cs
    induction cs with
    | nil => intro acc; rfl
    | cons c cs ih =>
      intro acc
      rw [List.flatMap_cons, List.foldl_append, push_unitsOf, ih, encoded_cons, List.reverse_append, List.append_assoc]
  rw [assemble, h]
  simp [decode?_encoded]

end CompletionGateway.Json
