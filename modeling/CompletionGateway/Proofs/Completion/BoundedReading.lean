import CompletionGateway.Proofs.Completion.Snippets

/-! How much of a body is read for a snippet of it. Pieces are asked for one by one, until the body ends or breaks off or
there are as many bytes as the limit allows. What becomes of a connection behind the last piece that was asked for does
not matter, and neither does the place at which a piece ends. -/
namespace CompletionGateway.Client
open Text.Utf8

/-- What comes when a body is asked for its next piece, time after time. -/
def arrivals (pieces : List (List UInt8)) : BodyEnd → List (Except String (List UInt8))
  | .complete => pieces.map .ok
  | .broken reason => pieces.map .ok ++ [.error reason]
  | .timedOut reason => pieces.map .ok ++ [.error reason]

/-- The pieces in front of a failure. -/
def received : List (Except String (List UInt8)) → List (List UInt8)
  | .ok piece :: more => piece :: received more
  | _ => []

/-- The loop over what comes, and what it has not asked for. A failure is like the end of the body. -/
def readArrivals (limit : Nat) : List (Except String (List UInt8)) → List UInt8 →
    String × List (Except String (List UInt8))
  | .ok piece :: more, collected =>
    let collected := collected ++ piece.take (limit - collected.length)
    if limit ≤ collected.length then (decodeLossy collected, more) else readArrivals limit more collected
  | .error _ :: more, collected => (decodeLossy collected, more)
  | [], collected => (decodeLossy collected, [])

lemma arrivals_cons (piece : List UInt8) (pieces : List (List UInt8)) (ending : BodyEnd) :
    arrivals (piece :: pieces) ending = .ok piece :: arrivals pieces ending := by
  cases ending <;> rfl

lemma received_arrivals (pieces : List (List UInt8)) (ending : BodyEnd) : received (arrivals pieces ending) = pieces := by
  induction pieces with
  | nil => cases ending <;> rfl
  | cons piece pieces ih => rw [arrivals_cons, received, ih]

/-- Nothing is asked for behind the end of a body, or behind its failure. -/
lemma readArrivals_nil (limit : Nat) (ending : BodyEnd) (collected : List UInt8) :
    readArrivals limit (arrivals [] ending) collected = (decodeLossy collected, []) := by
  cases ending <;> rfl

lemma readBounded_eq (limit : Nat) (pieces : List (List UInt8)) (ending : BodyEnd) (collected : List UInt8) :
    readBounded limit pieces collected =
      ((readArrivals limit (arrivals pieces ending) collected).1,
        received (readArrivals limit (arrivals pieces ending) collected).2) := by
  induction pieces generalizing collected with
  | nil =>
    rw [readArrivals_nil]
    rfl
  | cons piece pieces ih =>
    rw [readBounded, arrivals_cons, readArrivals]
    split
    · rw [received_arrivals]
    · exact ih _

/-- A piece fills the limit: there are not enough bytes without it, unless it is the first, and enough with it. -/
structure Filled (limit : Nat) (collected : List UInt8) (before : List (List UInt8)) (piece : List UInt8) : Prop where
  wanting : before = [] ∨ (collected ++ before.flatten).length < limit
  enough : limit ≤ (collected ++ (before ++ [piece]).flatten).length

lemma readArrivals_unread {limit : Nat} {collected : List UInt8} (h : collected.length ≤ limit)
    (pieces : List (List UInt8)) (ending : BodyEnd) :
    (∃ before piece after, pieces = before ++ piece :: after ∧ Filled limit collected before piece ∧
      (readArrivals limit (arrivals pieces ending) collected).2 = arrivals after ending) ∨
    (pieces = [] ∨ (collected ++ pieces.flatten).length < limit) ∧
      (readArrivals limit (arrivals pieces ending) collected).2 = [] := by
  induction pieces generalizing collected with
  | nil => exact .inr ⟨.inl rfl, by rw [readArrivals_nil]⟩
  | cons piece pieces ih =>
    have hlength : ((collected ++ piece).take limit).length = min limit (collected ++ piece).length := List.length_take
    rw [arrivals_cons, readArrivals, append_room h]
    by_cases hfull : limit ≤ ((collected ++ piece).take limit).length
    · have henough : limit ≤ (collected ++ ([] ++ [piece]).flatten).length := by
        rw [List.nil_append, List.flatten_singleton]
        omega
      exact .inl ⟨[], piece, pieces, rfl, ⟨.inl rfl, henough⟩, by simp only [if_pos hfull]⟩
    · have hshort : (collected ++ piece).length < limit := by omega
      have hrest : (collected ++ piece).take limit = collected ++ piece := List.take_of_length_le hshort.le
      rw [hrest] at hfull ⊢
      simp only [if_neg hfull]
      rcases ih hshort.le with ⟨before, last, after, rfl, hfilled, hunread⟩ | ⟨hend, hunread⟩
      · refine .inl ⟨piece :: before, last, after, rfl, ⟨.inr ?_, ?_⟩, hunread⟩
        · rcases hfilled.wanting with rfl | hwanting
          · simpa using hshort
          · simpa using hwanting
        · simpa using hfilled.enough
      · refine .inr ⟨.inr ?_, hunread⟩
        rcases hend with rfl | hend
        · simpa using hshort
        · simpa using hend

/-- What the reading of a body comes to. -/
structure BoundedReading (limit : Nat) (pieces : List (List UInt8)) (ending : BodyEnd) (text : String)
    (unread : List (Except String (List UInt8))) : Prop where
  text_eq : text = decodeLossy (pieces.flatten.take (min limit pieces.flatten.length))
  /-- It is the text of these bytes in any other pieces, and if the body ends otherwise. -/
  uncut : ∀ pieces' ending', pieces'.flatten = pieces.flatten →
    (readArrivals limit (arrivals pieces' ending') []).1 = text
  /-- No piece is asked for behind the one that fills the limit, which is the first one if the limit is zero; otherwise
  the body is read to its end. -/
  extent : (∃ before piece after, pieces = before ++ piece :: after ∧ Filled limit [] before piece ∧
      unread = arrivals after ending) ∨
    (pieces = [] ∨ pieces.flatten.length < limit) ∧ unread = []
  modelled : readBounded limit pieces [] = (text, received unread)

/-- A snippet depends on the bytes that came, and not on how or in how many pieces they did. -/
theorem bounded_reading (limit : Nat) (pieces : List (List UInt8)) (ending : BodyEnd) :
    BoundedReading limit pieces ending (readArrivals limit (arrivals pieces ending) []).1
      (readArrivals limit (arrivals pieces ending) []).2 := by
  have htext : ∀ pieces' ending', (readArrivals limit (arrivals pieces' ending') []).1 =
      decodeLossy (pieces'.flatten.take limit) := by
    intro pieces' ending'
    have hmodel := congrArg Prod.fst (readBounded_eq limit pieces' ending' [])
    rw [← hmodel, readBounded_fst (Nat.zero_le _), List.nil_append]
  refine ⟨?_, fun pieces' ending' hsame => ?_, ?_, readBounded_eq limit pieces ending []⟩
  · rw [htext, List.take_eq_take_min]
  · rw [htext, htext, hsame]
  · exact readArrivals_unread (Nat.zero_le limit) pieces ending

end CompletionGateway.Client
