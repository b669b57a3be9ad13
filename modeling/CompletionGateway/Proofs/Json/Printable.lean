import CompletionGateway.Proofs.Json.Text

/-! The compact text of a JSON value is one line: control characters are written as escapes. -/
namespace CompletionGateway.Json

/-- Text without control characters. -/
def Printable (cs : List Char) : Prop := ∀ c ∈ cs, 32 ≤ c.toNat

@[simp] lemma printable_nil : Printable [] := fun _ h => nomatch h

@[simp] lemma printable_cons {c : Char} {cs : List Char} : Printable (c :: cs) ↔ 32 ≤ c.toNat ∧ Printable cs :=
  List.forall_mem_cons

@[simp] lemma printable_append {cs ds : List Char} : Printable (cs ++ ds) ↔ Printable cs ∧ Printable ds :=
  List.forall_mem_append

lemma Printable.no_newline {cs : List Char} (h : Printable cs) : '\n' ∉ cs := fun hmem => absurd (h _ hmem) (by decide)

lemma printable_digits {cs : List Char} (h : ∀ c ∈ cs, c.isDigit = true) : Printable cs := by
  intro c hc
  have hrange := toNat_of_isDigit (h c hc)
  omega

lemma hexDigitChar_printable : ∀ n < 16, 32 ≤ (hexDigitChar n).toNat := by decide

lemma printable_escapeChar (c : Char) : Printable (escapeChar c) := by
  unfold escapeChar
  iterate 7
    split
    · simp
  split
  · rename_i hc
    have hhigh := hexDigitChar_printable (c.toNat / 16) (by omega)
    have hlow := hexDigitChar_printable (c.toNat % 16) (by omega)
    simp [hhigh, hlow]
  · rename_i hc
    rw [printable_cons]
    exact ⟨Nat.le_of_not_lt hc, printable_nil⟩

lemma printable_stringChars (s : String) : Printable (stringChars s) := by
  have hescapes : Printable (s.toList.flatMap escapeChar) := by
    intro c hc
    obtain ⟨d, -, hc⟩ := List.mem_flatMap.mp hc
    exact printable_escapeChar d c hc
  simp [stringChars, hescapes]

lemma Written.Legal.printable {w : Written} (h : w.Legal) : Printable w.chars := by
  obtain ⟨negative, whole, fraction, exponent⟩ := w
  obtain ⟨hwhole, hfraction, hexponent⟩ := h
  have hsign : Printable (signChars negative) := by cases negative <;> simp [signChars]
  have hfraction' : Printable (fractionChars fraction) := by
    unfold fractionChars
    split
    · exact printable_nil
    · exact printable_cons.mpr ⟨by decide, printable_digits hfraction⟩
  have hexponent' : Printable (exponentChars exponent) := by
    cases exponent with
    | none => exact printable_nil
    | some x =>
      obtain ⟨negative, ds⟩ := x
      have hds := printable_digits (hexponent _ rfl).1
      cases negative <;> simp [exponentChars, hds]
  simp only [chars, printable_append]
  exact ⟨⟨⟨hsign, printable_digits hwhole.digits⟩, hfraction'⟩, hexponent'⟩

mutual

/-- The compact text has no control characters. -/
theorem printable_chars (j : Json) : Printable (chars j) := by
  cases j with
  | null => simp [chars]
  | bool b => cases b <;> simp [chars]
  | integer i =>
    rw [chars, integerText_eq]
    exact (Written.ofInt_legal i).printable
  | real f b =>
    rw [chars]
    cases b with
    | nan => simp [realText]
    | infinite negative => simp [realText]
    | finite negative m e =>
      rw [realText_eq]
      exact (Written.ofReal_legal f negative m e).printable
  | string s =>
    rw [chars]
    exact printable_stringChars s
  | array xs =>
    cases xs with
    | nil => simp [chars]
    | cons x xs =>
      rw [chars, printable_cons, printable_append]
      exact ⟨by decide, printable_chars x, printable_elementChars xs⟩
  | object ms =>
    match ms with
    | [] => simp [chars]
    | (k, v) :: ms =>
      rw [chars, printable_cons, printable_append, printable_cons, printable_append]
      exact ⟨by decide, printable_stringChars k, by decide, printable_chars v, printable_memberChars ms⟩
termination_by sizeOf j
decreasing_by
  all_goals subst_vars
  all_goals simp
  all_goals omega

lemma printable_elementChars (xs : List Json) : Printable (elementChars xs) := by
  cases xs with
  | nil => simp [elementChars]
  | cons x xs =>
    rw [elementChars, printable_cons, printable_append]
    exact ⟨by decide, printable_chars x, printable_elementChars xs⟩
termination_by sizeOf xs
decreasing_by
  all_goals subst_vars
  all_goals simp
  all_goals omega

lemma printable_memberChars (ms : List (String × Json)) : Printable (memberChars ms) := by
  match ms with
  | [] => simp [memberChars]
  | (k, v) :: ms =>
    rw [memberChars, printable_cons, printable_append, printable_cons, printable_append]
    exact ⟨by decide, printable_stringChars k, by decide, printable_chars v, printable_memberChars ms⟩
termination_by sizeOf ms
decreasing_by
  all_goals simp
  all_goals omega

end

/-! ### Last characters -/

lemma elementChars_last (xs : List Json) : ∃ cs, elementChars xs = cs ++ [']'] := by
  induction xs with
  | nil => exact ⟨[], by rw [elementChars]; rfl⟩
  | cons x xs ih =>
    obtain ⟨cs, hcs⟩ := ih
    exact ⟨',' :: (chars x ++ cs), by rw [elementChars, hcs]; simp⟩

lemma memberChars_last (ms : List (String × Json)) : ∃ cs, memberChars ms = cs ++ ['\x7d'] := by
  induction ms with
  | nil => exact ⟨[], by rw [memberChars]; rfl⟩
  | cons m ms ih =>
    obtain ⟨k, v⟩ := m
    obtain ⟨cs, hcs⟩ := ih
    exact ⟨',' :: (stringChars k ++ ':' :: (chars v ++ cs)), by rw [memberChars, hcs]; simp⟩

/-- The text of an object stands between braces. -/
lemma chars_object (ms : List (String × Json)) : ∃ cs, chars (.object ms) = '\x7b' :: (cs ++ ['\x7d']) := by
  match ms with
  | [] => exact ⟨[], by rw [chars]; rfl⟩
  | (k, v) :: ms =>
    obtain ⟨cs, hcs⟩ := memberChars_last ms
    exact ⟨stringChars k ++ ':' :: (chars v ++ cs), by rw [chars, hcs]; simp⟩

/-- The last character of a value is a digit, the last letter of a word, or closes the value. -/
lemma last_chars (j : Json) : ∃ cs c, chars j = cs ++ [c] ∧
    (c.isDigit = true ∨ c = 'l' ∨ c = 'e' ∨ c = '"' ∨ c = ']' ∨ c = '\x7d') := by
  have hnull : ∃ cs c, ['n', 'u', 'l', 'l'] = cs ++ [c] ∧
      (c.isDigit = true ∨ c = 'l' ∨ c = 'e' ∨ c = '"' ∨ c = ']' ∨ c = '\x7d') := ⟨['n', 'u', 'l'], 'l', rfl, by simp⟩
  cases j with
  | null =>
    rw [chars]
    exact hnull
  | bool b =>
    cases b with
    | false => exact ⟨['f', 'a', 'l', 's'], 'e', by rw [chars]; rfl, by simp⟩
    | true => exact ⟨['t', 'r', 'u'], 'e', by rw [chars]; rfl, by simp⟩
  | integer i =>
    obtain ⟨cs, c, hlast, hc⟩ := (Written.ofInt_legal i).last
    exact ⟨cs, c, by rw [chars, integerText_eq, hlast], .inl hc⟩
  | real f b =>
    rw [chars]
    cases b with
    | nan => simpa [realText] using hnull
    | infinite negative => simpa [realText] using hnull
    | finite negative m e =>
      obtain ⟨cs, c, hlast, hc⟩ := (Written.ofReal_legal f negative m e).last
      exact ⟨cs, c, by rw [realText_eq, hlast], .inl hc⟩
  | string s => exact ⟨'"' :: s.toList.flatMap escapeChar, '"', by rw [chars]; rfl, by simp⟩
  | array xs =>
    cases xs with
    | nil => exact ⟨['['], ']', by rw [chars]; rfl, by simp⟩
    | cons x xs =>
      obtain ⟨cs, hcs⟩ := elementChars_last xs
      exact ⟨'[' :: (chars x ++ cs), ']', by rw [chars, hcs]; simp, by simp⟩
  | object ms =>
    obtain ⟨cs, hcs⟩ := chars_object ms
    exact ⟨'\x7b' :: cs, '\x7d', hcs, by simp⟩

end CompletionGateway.Json
