import CompletionGateway.Proofs.Cache.Fingerprint
import CompletionGateway.Proofs.Numeric.Magnitudes

/-! What the cache tells apart. Every field that a caller can fill fits behind the eight bytes of its length. So two
preimages are the same just if the same is asked, and keys are as good as preimages where digests are. -/
namespace CompletionGateway

namespace Numeric

/-- No larger than the numbers of a format. -/
def Binary.Within (f : Format) : Binary → Prop
  | .finite _ m e => m < 2 ^ f.precision ∧ e ≤ f.maxExponent
  | _ => True

lemma digitCount_le {n k : Nat} (hk : 0 < k) (h : n < 10 ^ k) : digitCount n ≤ k :=
  (Nat.length_toDigits_le_iff (by decide) hk).mpr h

lemma length_signText_le (negative : Bool) : (signText negative).length ≤ 1 := by cases negative <;> decide

/-- A hundred times a number of single precision, rounded, has at most 41 digits. -/
lemma hundredths_lt {m : Nat} {e : Int} (hm : m < 2 ^ 24) (he : e ≤ 104) :
    roundHalfEven (m * (Decimal.power 2 e).1 * 100) (Decimal.power 2 e).2 < 10 ^ 41 := by
  have hpower : (Decimal.power 2 e).1 ≤ 2 ^ 104 := by
    unfold Decimal.power
    split
    · exact Nat.pow_le_pow_right (by decide) (by omega)
    · exact Nat.one_le_two_pow
  calc roundHalfEven (m * (Decimal.power 2 e).1 * 100) (Decimal.power 2 e).2
      ≤ m * (Decimal.power 2 e).1 * 100 / (Decimal.power 2 e).2 + 1 := roundHalfEven_le _ _
    _ ≤ m * (Decimal.power 2 e).1 * 100 + 1 := Nat.add_le_add_right (Nat.div_le_self _ _) 1
    _ ≤ 2 ^ 24 * 2 ^ 104 * 100 + 1 :=
      Nat.add_le_add_right (Nat.mul_le_mul_right 100 (Nat.mul_le_mul hm.le hpower)) 1
    _ < 10 ^ 41 := by norm_num

lemma Binary.length_twoPlaces_le {x : Binary} (h : x.Within single) : x.twoPlaces.length ≤ 45 := by
  cases x with
  | nan => decide
  | infinite negative => cases negative <;> decide
  | finite negative m e =>
    have hlt := hundredths_lt h.1 h.2
    have hsign := length_signText_le negative
    rw [twoPlaces]
    generalize roundHalfEven (m * (Decimal.power 2 e).1 * 100) (Decimal.power 2 e).2 = hundredths at hlt ⊢
    have hwhole : (digitChars (hundredths / 100)).length ≤ 41 := digitCount_le (by decide) (by omega)
    have htenth : (digitChars (hundredths % 100 / 10)).length ≤ 1 := digitCount_le (by decide) (by omega)
    have hlast : (digitChars (hundredths % 100 % 10)).length ≤ 1 := digitCount_le (by decide) (by omega)
    simp only [String.length_append, String.length_ofList, List.length_append, List.length_cons]
    omega

end Numeric

lemma Text.Utf8.length_encoded_le (cs : List Char) : (encoded cs).length ≤ 4 * cs.length := by
  induction cs with
  | nil => simp
  | cons c cs ih =>
    have hc : (String.utf8EncodeChar c).length ≤ 4 := by
      rw [String.length_utf8EncodeChar]
      exact c.utf8Size_le_four
    rw [encoded_cons, List.length_append, List.length_cons]
    omega

namespace Cache

lemma fits_of_length {s : String} (h : s.length < 2 ^ 62) : Fits s := by
  have hbytes := Text.Utf8.length_encoded_le s.toList
  rw [String.length_toList] at hbytes
  unfold Fits
  rw [Text.utf8_eq_encoded]
  omega

namespace Inquiry
variable {q q' : Inquiry}

/-- What a caller can ask: texts that an address space holds, at a temperature of single precision. -/
structure Askable (q : Inquiry) : Prop where
  principal : Fits q.principal
  model : Fits q.model
  prompt : Fits q.prompt
  temperature : q.temperature.Within Numeric.single

lemma Askable.fits (h : q.Askable) : ∀ f ∈ q.fields, Fits f := by
  have htemperature : Fits q.temperature.twoPlaces :=
    fits_of_length ((Numeric.Binary.length_twoPlaces_le h.temperature).trans_lt (by decide))
  have htokens : Fits (toString q.maxTokens.toNat) := by
    have hcount : Numeric.digitCount q.maxTokens.toNat ≤ 10 :=
      Numeric.digitCount_le (by decide) (q.maxTokens.toNat_lt.trans (by decide))
    apply fits_of_length
    calc (toString q.maxTokens.toNat).length = Numeric.digitCount q.maxTokens.toNat := String.length_ofList
      _ ≤ 10 := hcount
      _ < 2 ^ 62 := by decide
  intro f hf
  simp only [fields, List.mem_cons, List.not_mem_nil, or_false] at hf
  rcases hf with rfl | rfl | rfl | rfl | rfl
  · exact h.principal
  · exact h.model
  · exact h.prompt
  · exact htemperature
  · exact htokens

/-- Two inquiries have one preimage, or one key, only if they ask the same. -/
structure ToldApart (q q' : Inquiry) : Prop where
  preimage : q.preimage = q'.preimage ↔ Alike q q'
  /-- The key tells as much as the digest. -/
  digest : q.fingerprint.key = q'.fingerprint.key ↔ Digest.sha256 q.preimage = Digest.sha256 q'.preimage
  key : (Digest.sha256 q.preimage = Digest.sha256 q'.preimage → q.preimage = q'.preimage) →
    (q.fingerprint.key = q'.fingerprint.key ↔ Alike q q')

theorem told_apart (hq : q.Askable) (hq' : q'.Askable) : ToldApart q q' where
  preimage := preimage_eq_iff hq.fits hq'.fits
  digest := by
    constructor
    · exact digest_of_key
    · intro h
      rw [fingerprint, fingerprint, h]
  key := key_eq_iff hq.fits hq'.fits

/-- Two fields, the second of which begins with the bytes of a length, at a temperature near 0.7. -/
def twoFields : Inquiry :=
  ⟨"a:b", "\x00\x00\x00\x00\x00\x00\x00\x03c4d", "é", .finite false 11744051 (-24), 12⟩

/-- The same characters as one field, at a temperature near 0.701. -/
def oneField : Inquiry :=
  ⟨"a:b\x00\x00\x00\x00\x00\x00\x00\x03c4d", "", "é", .finite false 11760828 (-24), 12⟩

/-- Without their lengths the fields would be the same bytes. -/
theorem told_apart_boundary : twoFields.Askable ∧ oneField.Askable ∧ ToldApart twoFields oneField ∧
    twoFields.fields.flatMap Text.utf8 = oneField.fields.flatMap Text.utf8 ∧
    twoFields.preimage ≠ oneField.preimage := by
  have htwo : twoFields.Askable := ⟨fits_of_length (by decide), fits_of_length (by decide), fits_of_length (by decide),
    by decide, by decide⟩
  have hone : oneField.Askable := ⟨fits_of_length (by decide), fits_of_length (by decide), fits_of_length (by decide),
    by decide, by decide⟩
  have happart := told_apart htwo hone
  exact ⟨htwo, hone, happart, by decide +kernel, mt happart.preimage.mp (by decide +kernel)⟩

end Inquiry
end Cache
end CompletionGateway
