import CompletionGateway.Proofs.Json.Reals
import CompletionGateway.Proofs.Json.Strings

/-! The compact text of a JSON value is read back as that value, with numbers as they are written. -/
namespace CompletionGateway.Json
open Numeric Text.Utf8

def Written.ofInt (i : Int) : Written := ⟨decide (i < 0), digitChars i.natAbs, [], none⟩

mutual

/-- What the text of a value says. -/
def tree : Json → Tree
  | .null => .null
  | .bool b => .bool b
  | .integer i => .number (Written.ofInt i).numeral
  | .real f (.finite negative m e) => .number (Written.ofReal f negative m e).numeral
  | .real _ _ => .null
  | .string s => .string (some s)
  | .array xs => .array (elementTrees xs)
  | .object ms => .object (memberTrees ms)

def elementTrees : List Json → List Tree
  | [] => []
  | x :: xs => tree x :: elementTrees xs

def memberTrees : List (String × Json) → List (Option String × Tree)
  | [] => []
  | (k, v) :: ms => (some k, tree v) :: memberTrees ms

end

@[simp] lemma tree_bool (b : Bool) : tree (.bool b) = .bool b := by rw [tree]
@[simp] lemma tree_integer (i : Int) : tree (.integer i) = .number (Written.ofInt i).numeral := by rw [tree]
@[simp] lemma tree_string (s : String) : tree (.string s) = .string (some s) := by rw [tree]

@[simp] lemma tree_object (ms : List (String × Json)) :
    tree (.object ms) = .object (ms.map fun m => (some m.1, tree m.2)) := by
  rw [tree]
  congr 1
  induction ms with
  | nil => rfl
  | cons m ms ih => rw [memberTrees, ih, List.map_cons]

/-- What may stand behind a value in a compact text: the end of the text, of an array or object, or of one of their
parts. -/
def Follows (rest : List UInt8) : Prop := ∀ b ∈ rest.head?, b = 44 ∨ b = 93 ∨ b = 125

lemma Follows.numberEnd {rest : List UInt8} (h : Follows rest) : NumberEnd rest := by
  intro b hb
  rcases h b hb with rfl | rfl | rfl <;> decide

lemma follows_elementChars (xs : List Json) (rest : List UInt8) : Follows (encoded (elementChars xs) ++ rest) := by
  cases xs <;> simp [Follows, elementChars, encoded_cons, encoded_ascii]

lemma follows_memberChars (ms : List (String × Json)) (rest : List UInt8) :
    Follows (encoded (memberChars ms) ++ rest) := by
  cases ms <;> simp [Follows, memberChars, encoded_cons, encoded_ascii]

/-! ### Values that are no arrays or objects -/

namespace Tree

lemma value_number {fuel : Nat} {b : UInt8} {bytes : List UInt8} (hb : b = 45 ∨ isDigit b = true) :
    value (fuel + 1) (b :: bytes) = (numeral (b :: bytes)).map fun r => (.number r.1, r.2) := by
  have hspace : isSpace b = false := by
    rcases hb with rfl | hb
    · rfl
    · rw [isDigit_iff] at hb
      simp only [isSpace, Bool.or_eq_false_iff, decide_eq_false_iff_not]
      refine ⟨⟨⟨?_, ?_⟩, ?_⟩, ?_⟩ <;> rintro rfl <;> exact absurd hb (by decide)
  have hskip : skipSpace (b :: bytes) = b :: bytes := by simp [skipSpace, hspace]
  have hne : b ≠ 34 ∧ b ≠ 91 ∧ b ≠ 123 ∧ b ≠ 110 ∧ b ≠ 116 ∧ b ≠ 102 := by
    rcases hb with rfl | hb
    · decide
    · rw [isDigit_iff] at hb
      refine ⟨?_, ?_, ?_, ?_, ?_, ?_⟩ <;> rintro rfl <;> exact absurd hb (by decide)
  obtain ⟨h1, h2, h3, h4, h5, h6⟩ := hne
  have hnumber : (b = 45 || isDigit b) = true := by
    rcases hb with rfl | hb
    · rfl
    · simp [hb]
  unfold value
  rw [hskip]
  simp_all

lemma value_string (fuel : Nat) (s : String) (rest : List UInt8) :
    value (fuel + 1) (encoded (stringChars s) ++ rest) = some (.string (some s), rest) := by
  have hvalue : value (fuel + 1) (encoded (stringChars s) ++ rest) =
      (stringUnits (encoded (s.toList.flatMap escapeChar ++ ['"']) ++ rest) []).map fun r =>
        (.string (assemble r.1), r.2) := rfl
  rw [hvalue, stringUnits_encoded, Option.map_some, assemble_unitsOf]

lemma value_written {w : Written} (hw : w.Legal) (fuel : Nat) {rest : List UInt8} (hrest : NumberEnd rest) :
    value (fuel + 1) (encoded w.chars ++ rest) = some (.number w.numeral, rest) := by
  obtain ⟨c, cs, hcs, hc⟩ := hw.head
  have hnumeral := numeral_encoded hw hrest
  rw [hcs] at hnumeral ⊢
  rcases hc with rfl | hc
  · have hsign : encoded ('-' :: cs) ++ rest = 45 :: (encoded cs ++ rest) := rfl
    rw [hsign] at hnumeral ⊢
    rw [value_number (.inl rfl), hnumeral]
    rfl
  · rw [encoded_digit hc] at hnumeral ⊢
    rw [List.cons_append] at hnumeral ⊢
    rw [value_number (.inr (isDigit_digit hc)), hnumeral]
    rfl

lemma value_array {fuel : Nat} {b : UInt8} {bytes : List UInt8} (hskip : skipSpace (b :: bytes) = b :: bytes)
    (hb : b ≠ 93) :
    value (fuel + 1) (91 :: b :: bytes) = (elements fuel (b :: bytes)).map fun r => (.array r.1, r.2) := by
  have hopen : skipSpace (91 :: b :: bytes) = 91 :: b :: bytes := rfl
  rw [value, hopen]
  simp only [hskip]
  split
  · rename_i heq
    exact absurd (List.cons.inj heq).1 hb
  · rfl

lemma elements_last {fuel : Nat} {bytes rest rest' : List UInt8} {t : Tree} (hvalue : value fuel bytes = some (t, rest))
    (hclose : skipSpace rest = 93 :: rest') : elements (fuel + 1) bytes = some ([t], rest') := by
  simp only [elements, hvalue, hclose]

lemma elements_more {fuel : Nat} {bytes rest rest' : List UInt8} {t : Tree} (hvalue : value fuel bytes = some (t, rest))
    (hcomma : skipSpace rest = 44 :: rest') :
    elements (fuel + 1) bytes = (elements fuel rest').map fun r => (t :: r.1, r.2) := by
  simp only [elements, hvalue, hcomma]

lemma members_last {fuel : Nat} {bytes rest rest' rest'' more : List UInt8} {units : List StringUnit} {t : Tree}
    (hkey : skipSpace bytes = 34 :: rest) (hunits : stringUnits rest [] = some (units, 58 :: rest'))
    (hvalue : value fuel rest' = some (t, rest'')) (hclose : skipSpace rest'' = 125 :: more) :
    members (fuel + 1) bytes = some ([(assemble units, t)], more) := by
  have hcolon : skipSpace (58 :: rest') = 58 :: rest' := rfl
  simp only [members, hkey, hunits, hcolon, hvalue, hclose]

lemma members_more {fuel : Nat} {bytes rest rest' rest'' more : List UInt8} {units : List StringUnit} {t : Tree}
    (hkey : skipSpace bytes = 34 :: rest) (hunits : stringUnits rest [] = some (units, 58 :: rest'))
    (hvalue : value fuel rest' = some (t, rest'')) (hcomma : skipSpace rest'' = 44 :: more) :
    members (fuel + 1) bytes = (members fuel more).map fun r => ((assemble units, t) :: r.1, r.2) := by
  have hcolon : skipSpace (58 :: rest') = 58 :: rest' := rfl
  simp only [members, hkey, hunits, hcolon, hvalue, hcomma]

end Tree

/-! ### First characters -/

lemma integerText_eq (i : Int) : integerText i = (Written.ofInt i).chars := by
  by_cases hi : i < 0 <;> simp [integerText, hi, Written.chars, Written.ofInt, signChars, fractionChars, exponentChars]

lemma Written.ofInt_legal (i : Int) : (ofInt i).Legal := ⟨wholeDigits_digitChars _, by simp [ofInt], by simp [ofInt]⟩

/-- The first character of a value is no white space and ends no array. -/
lemma head_chars (j : Json) : ∃ c cs, chars j = c :: cs ∧ (c = '-' ∨ c.isDigit = true ∨
    c = 'n' ∨ c = 't' ∨ c = 'f' ∨ c = '"' ∨ c = '[' ∨ c = '{') := by
  cases j with
  | null => exact ⟨_, _, by rw [chars], by simp⟩
  | bool b => cases b <;> exact ⟨_, _, by rw [chars], by simp⟩
  | integer i =>
    obtain ⟨c, ds, h, hc⟩ := (Written.ofInt_legal i).head
    exact ⟨c, ds, by rw [chars, integerText_eq, h], by tauto⟩
  | real f b =>
    rw [chars]
    cases b with
    | nan => exact ⟨'n', ['u', 'l', 'l'], by simp [realText], by simp⟩
    | infinite negative => exact ⟨'n', ['u', 'l', 'l'], by simp [realText], by simp⟩
    | finite negative m e =>
      obtain ⟨c, ds, h, hc⟩ := (Written.ofReal_legal f negative m e).head
      exact ⟨c, ds, by rw [realText_eq, h], by tauto⟩
  | string s => exact ⟨_, _, by rw [chars, stringChars], by simp⟩
  | array xs =>
    cases xs with
    | nil => exact ⟨_, _, by rw [chars], by simp⟩
    | cons x xs => exact ⟨_, _, by rw [chars], by simp⟩
  | object ms =>
    cases ms with
    | nil => exact ⟨_, _, by rw [chars], by simp⟩
    | cons m ms =>
      obtain ⟨k, v⟩ := m
      exact ⟨_, _, by rw [chars], by simp⟩

lemma skipSpace_chars (j : Json) (rest : List UInt8) :
    ∃ b bytes, encoded (chars j) ++ rest = b :: bytes ∧ skipSpace (b :: bytes) = b :: bytes ∧ b ≠ 93 := by
  obtain ⟨c, cs, hcs, hc⟩ := head_chars j
  have hfirst : ∃ b, encoded (c :: cs) = b :: encoded cs ∧ isSpace b = false ∧ b ≠ 93 := by
    rcases hc with rfl | hc | rfl | rfl | rfl | rfl | rfl | rfl
    case inr.inl =>
      rw [encoded_digit hc]
      have hb := isDigit_iff.mp (isDigit_digit hc)
      refine ⟨_, rfl, ?_, ?_⟩
      · simp only [isSpace, Bool.or_eq_false_iff, decide_eq_false_iff_not]
        refine ⟨⟨⟨?_, ?_⟩, ?_⟩, ?_⟩ <;> intro heq <;> rw [heq] at hb <;> exact absurd hb (by decide)
      · intro heq
        rw [heq] at hb
        exact absurd hb (by decide)
    all_goals exact ⟨_, rfl, rfl, by decide⟩
  obtain ⟨b, hb, hspace, hne⟩ := hfirst
  refine ⟨b, encoded cs ++ rest, by rw [hcs, hb]; rfl, ?_, hne⟩
  simp [skipSpace, hspace]

/-! ### Whole values -/

lemma length_elementChars_pos (xs : List Json) : 0 < (elementChars xs).length := by cases xs <;> simp [elementChars]
lemma length_memberChars_pos (ms : List (String × Json)) : 0 < (memberChars ms).length := by
  cases ms <;> simp [memberChars]

lemma length_chars_pos (j : Json) : 0 < (chars j).length := by
  obtain ⟨c, cs, hcs, -⟩ := head_chars j
  rw [hcs]
  exact Nat.succ_pos _

mutual

/-- A value is read from the front of its text. As much fuel as the text has characters is enough. -/
theorem value_chars (j : Json) (fuel : Nat) (rest : List UInt8) (hfuel : (chars j).length ≤ fuel)
    (hrest : Follows rest) :
    Tree.value fuel (encoded (chars j) ++ rest) = some (tree j, rest) := by
  obtain ⟨fuel, rfl⟩ : ∃ n, fuel = n + 1 := Nat.exists_eq_add_one.mpr (by have := length_chars_pos j; omega)
  cases j with
  | null =>
    rw [chars, tree]
    rfl
  | bool b =>
    cases b <;> rw [chars, tree] <;> rfl
  | integer i =>
    rw [chars, tree, integerText_eq]
    exact Tree.value_written (Written.ofInt_legal i) fuel hrest.numberEnd
  | real f b =>
    rw [chars]
    cases b with
    | nan =>
      rw [show (realText f .nan).toList = ['n', 'u', 'l', 'l'] by simp [realText]]
      rfl
    | infinite negative =>
      rw [show (realText f (.infinite negative)).toList = ['n', 'u', 'l', 'l'] by simp [realText]]
      rfl
    | finite negative m e =>
      rw [tree, realText_eq]
      exact Tree.value_written (Written.ofReal_legal f negative m e) fuel hrest.numberEnd
  | string s =>
    rw [chars, tree]
    exact Tree.value_string fuel s rest
  | array xs =>
    cases xs with
    | nil =>
      rw [chars, tree, elementTrees]
      rfl
    | cons x xs =>
      rw [chars] at hfuel ⊢
      have helements := elements_chars x xs fuel rest (by simpa using hfuel)
      obtain ⟨b, bytes, hbytes, hskip, hb⟩ := skipSpace_chars x (encoded (elementChars xs) ++ rest)
      have hopen : encoded ('[' :: (chars x ++ elementChars xs)) ++ rest = 91 :: b :: bytes := by
        rw [← hbytes, encoded_cons_ascii (by decide), encoded_append]
        simp
      rw [hopen, Tree.value_array hskip hb, ← hbytes, ← List.append_assoc, ← encoded_append, helements]
      rfl
  | object ms =>
    match hms : ms, hfuel with
    | [], _ =>
      rw [chars, tree, memberTrees]
      rfl
    | (k, v) :: ms, hfuel =>
      rw [chars] at hfuel ⊢
      have hmembers := members_chars k v ms fuel rest (by simpa using hfuel)
      have hopen : Tree.value (fuel + 1)
            (encoded ('\x7b' :: (stringChars k ++ ':' :: (chars v ++ memberChars ms))) ++ rest) =
          (Tree.members fuel (encoded (stringChars k ++ ':' :: (chars v ++ memberChars ms)) ++ rest)).map
            fun r => (.object r.1, r.2) := rfl
      rw [hopen, hmembers]
      rfl
termination_by sizeOf j
decreasing_by
  all_goals subst_vars
  all_goals simp

theorem elements_chars (x : Json) (xs : List Json) (fuel : Nat) (rest : List UInt8)
    (hfuel : (chars x ++ elementChars xs).length ≤ fuel) :
    Tree.elements fuel (encoded (chars x ++ elementChars xs) ++ rest) = some (elementTrees (x :: xs), rest) := by
  obtain ⟨fuel, rfl⟩ : ∃ n, fuel = n + 1 :=
    Nat.exists_eq_add_one.mpr (by have := length_chars_pos x; simp at hfuel; omega)
  have hlength := length_elementChars_pos xs
  rw [List.length_append] at hfuel
  have hvalue := value_chars x fuel (encoded (elementChars xs) ++ rest) (by omega) (follows_elementChars xs rest)
  rw [encoded_append, List.append_assoc]
  cases xs with
  | nil => exact Tree.elements_last hvalue rfl
  | cons y ys =>
    rw [elementChars, List.length_cons] at hfuel
    rw [elementChars] at hvalue ⊢
    have helements := elements_chars y ys fuel rest (by omega)
    have hcomma : skipSpace (encoded (',' :: (chars y ++ elementChars ys)) ++ rest) =
        44 :: (encoded (chars y ++ elementChars ys) ++ rest) := rfl
    rw [Tree.elements_more hvalue hcomma, helements]
    rfl
termination_by sizeOf (x :: xs)
decreasing_by
  all_goals subst_vars
  all_goals simp
  all_goals omega

theorem members_chars (k : String) (v : Json) (ms : List (String × Json)) (fuel : Nat) (rest : List UInt8)
    (hfuel : (stringChars k ++ ':' :: (chars v ++ memberChars ms)).length ≤ fuel) :
    Tree.members fuel (encoded (stringChars k ++ ':' :: (chars v ++ memberChars ms)) ++ rest) =
      some (memberTrees ((k, v) :: ms), rest) := by
  obtain ⟨fuel, rfl⟩ : ∃ n, fuel = n + 1 := Nat.exists_eq_add_one.mpr (by simp [stringChars] at hfuel; omega)
  have hlength := length_memberChars_pos ms
  simp only [List.length_append, List.length_cons] at hfuel
  have hvalue := value_chars v fuel (encoded (memberChars ms) ++ rest) (by omega) (follows_memberChars ms rest)
  have hkey : skipSpace (encoded (stringChars k ++ ':' :: (chars v ++ memberChars ms)) ++ rest) =
      34 :: (encoded (k.toList.flatMap escapeChar ++ ['"']) ++ 58 :: (encoded (chars v) ++
        (encoded (memberChars ms) ++ rest))) := by
    have hcolon : encoded (':' :: (chars v ++ memberChars ms)) = 58 :: encoded (chars v ++ memberChars ms) := rfl
    have hquote : encoded (stringChars k) = 34 :: encoded (k.toList.flatMap escapeChar ++ ['"']) := rfl
    simp only [encoded_append, hcolon, hquote, List.append_assoc, List.cons_append]
    rfl
  match hms : ms, hfuel with
  | [], _ =>
    rw [Tree.members_last hkey (stringUnits_encoded k _) hvalue rfl, assemble_unitsOf]
    rfl
  | (k', v') :: ms, hfuel =>
    rw [memberChars, List.length_cons] at hfuel
    have hmembers := members_chars k' v' ms fuel rest (by omega)
    have hcomma : skipSpace (encoded (memberChars ((k', v') :: ms)) ++ rest) =
        44 :: (encoded (stringChars k' ++ ':' :: (chars v' ++ memberChars ms)) ++ rest) := by
      rw [memberChars]
      rfl
    rw [Tree.members_more hkey (stringUnits_encoded k _) hvalue hcomma, assemble_unitsOf, hmembers]
    rfl
termination_by sizeOf ((k, v) :: ms)
decreasing_by
  all_goals subst_vars
  all_goals simp
  all_goals omega

end

/-- The text of a value is read back as what it says. -/
theorem parse_text (j : Json) : Tree.parse (Text.utf8 j.text) = some (tree j) := by
  have hlength := length_le_encoded (chars j)
  have hvalue := value_chars j (2 * (encoded (chars j)).length + 2) [] (by omega) (by simp [Follows])
  rw [List.append_nil] at hvalue
  rw [text, Text.utf8_ofList, Tree.parse, hvalue]
  rfl

end CompletionGateway.Json
