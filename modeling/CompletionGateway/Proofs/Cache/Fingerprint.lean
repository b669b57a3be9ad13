import CompletionGateway.Cache.Fingerprint
import CompletionGateway.Proofs.Json.Numbers
import CompletionGateway.Proofs.Numeric.Places

/-! Fingerprints tell inquiries apart. Fields that fit behind their lengths are read off the preimage again, and keys
are as different as digests are. -/
namespace CompletionGateway

namespace Digest

@[simp] lemma length_bigEndian (count n : Nat) : (bigEndian count n).length = count := by simp [bigEndian]

lemma map_toNat_bigEndian (count n : Nat) :
    (bigEndian count n).map UInt8.toNat = (List.range count).map fun i => n / 256 ^ (count - 1 - i) % 256 := by
  rw [bigEndian, List.map_map]
  exact List.map_congr_left fun i _ => UInt8.toNat_ofNat'

/-- The bytes of a number that fits tell the number. -/
lemma bigEndian_injective {count n n' : Nat} (h : bigEndian count n = bigEndian count n') :
    n % 256 ^ count = n' % 256 ^ count := by
  have hplaces := congrArg (fun bytes => (bytes.map UInt8.toNat).foldl (fun n d => n * 256 + d) 0) h
  simpa only [map_toNat_bigEndian, Numeric.foldl_places _ _ _ (le_refl count), Nat.sub_self, pow_zero, Nat.div_one]
    using hplaces

lemma hex_injective : Function.Injective hex := by
  intro bytes
  induction bytes with
  | nil =>
    intro bytes' h
    cases bytes' with
    | nil => rfl
    | cons b bytes' => cases h
  | cons b bytes ih =>
    intro bytes' h
    cases bytes' with
    | nil => cases h
    | cons b' bytes' =>
      obtain ⟨hhigh, hrest⟩ := List.cons.inj h
      obtain ⟨hlow, hrest⟩ := List.cons.inj hrest
      have hb := b.toNat_lt
      have hb' := b'.toNat_lt
      have hdiv := Numeric.digitChar_injective _ (by omega) _ (by omega) hhigh
      have hmod := Numeric.digitChar_injective _ (by omega) _ (by omega) hlow
      have hbyte : b = b' := UInt8.toNat_inj.mp (by omega)
      rw [hbyte, ih hrest]

end Digest

namespace Cache

/-- A field whose length the eight bytes in front of it can tell. -/
def Fits (field : String) : Prop := (Text.utf8 field).length < 2 ^ 64

lemma framed_injective {f f' : String} (hf : Fits f) (hf' : Fits f') {rest rest' : List UInt8}
    (h : framed (Text.utf8 f) ++ rest = framed (Text.utf8 f') ++ rest') : f = f' ∧ rest = rest' := by
  rw [framed, framed, List.append_assoc, List.append_assoc] at h
  obtain ⟨hlength, hfield⟩ := List.append_inj h (by simp)
  have hlength' := Digest.bigEndian_injective hlength
  have hpower : 256 ^ 8 = 2 ^ 64 := by norm_num
  rw [hpower, Nat.mod_eq_of_lt hf, Nat.mod_eq_of_lt hf'] at hlength'
  obtain ⟨hbytes, hrest⟩ := List.append_inj hfield hlength'
  exact ⟨Text.utf8_injective hbytes, hrest⟩

lemma frames_injective {fs fs' : List String} (hfs : ∀ f ∈ fs, Fits f) (hfs' : ∀ f ∈ fs', Fits f)
    (hlength : fs.length = fs'.length)
    (h : (fs.flatMap fun f => framed (Text.utf8 f)) = fs'.flatMap fun f => framed (Text.utf8 f)) : fs = fs' := by
  induction fs generalizing fs' with
  | nil => exact (List.length_eq_zero_iff.mp hlength.symm).symm
  | cons f fs ih =>
    cases fs' with
    | nil => cases hlength
    | cons f' fs' =>
      rw [List.flatMap_cons, List.flatMap_cons] at h
      obtain ⟨rfl, hrest⟩ := framed_injective (hfs f List.mem_cons_self) (hfs' f' List.mem_cons_self) h
      rw [ih (fun g hg => hfs g (List.mem_cons_of_mem _ hg)) (fun g hg => hfs' g (List.mem_cons_of_mem _ hg))
        (Nat.succ.inj hlength) hrest]

lemma toString_injective {n n' : Nat} (h : toString n = toString n') : n = n' := by
  have hchars : Numeric.digitChars n = Numeric.digitChars n' := String.ofList_injective h
  rw [← Json.digitsValue_digitChars n, hchars, Json.digitsValue_digitChars]

/-- Inquiries that ask the same thing: caller, model, prompt, temperature to two places and token budget agree. -/
structure Alike (q q' : Inquiry) : Prop where
  principal : q.principal = q'.principal
  model : q.model = q'.model
  prompt : q.prompt = q'.prompt
  temperature : q.temperature.twoPlaces = q'.temperature.twoPlaces
  maxTokens : q.maxTokens = q'.maxTokens

namespace Inquiry

lemma alike_iff {q q' : Inquiry} : Alike q q' ↔ q.fields = q'.fields := by
  constructor
  · rintro ⟨hprincipal, hmodel, hprompt, htemperature, htokens⟩
    simp only [fields, hprincipal, hmodel, hprompt, htemperature, htokens]
  · intro h
    simp only [fields, List.cons.injEq, and_true] at h
    obtain ⟨hprincipal, hmodel, hprompt, htemperature, htokens⟩ := h
    exact ⟨hprincipal, hmodel, hprompt, htemperature, UInt32.toNat_inj.mp (toString_injective htokens)⟩

instance (q q' : Inquiry) : Decidable (Alike q q') := decidable_of_iff _ alike_iff.symm

/-- Inquiries whose fields fit have one preimage only if they ask the same thing. -/
theorem preimage_eq_iff {q q' : Inquiry} (hq : ∀ f ∈ q.fields, Fits f) (hq' : ∀ f ∈ q'.fields, Fits f) :
    q.preimage = q'.preimage ↔ Alike q q' := by
  rw [alike_iff]
  constructor
  · exact frames_injective hq hq' rfl
  · intro h
    rw [preimage, preimage, h]

/-- Keys are equal only if digests are. -/
lemma digest_of_key {q q' : Inquiry} (h : q.fingerprint.key = q'.fingerprint.key) :
    Digest.sha256 q.preimage = Digest.sha256 q'.preimage :=
  Digest.hex_injective (String.ofList_injective (String.append_right_inj _ |>.mp h))

/-- Where no digest belongs to two preimages, keys are equal just if the inquiries ask the same thing. -/
theorem key_eq_iff {q q' : Inquiry} (hq : ∀ f ∈ q.fields, Fits f) (hq' : ∀ f ∈ q'.fields, Fits f)
    (hdigest : Digest.sha256 q.preimage = Digest.sha256 q'.preimage → q.preimage = q'.preimage) :
    q.fingerprint.key = q'.fingerprint.key ↔ Alike q q' := by
  constructor
  · intro h
    exact (preimage_eq_iff hq hq').mp (hdigest (digest_of_key h))
  · intro h
    rw [fingerprint, fingerprint, (preimage_eq_iff hq hq').mpr h]

end Inquiry
end Cache
end CompletionGateway
