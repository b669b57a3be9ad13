import CompletionGateway.Completion.Forwarding
import CompletionGateway.Proofs.Text.Lossy

/-! The text of a failure that a backend answers with. It is made of the first bytes of the body, as many as the limit
allows. That text can be longer than the limit: a byte of an ill-formed part may become three, and a cut through a
character makes an ill-formed part of what is in front of it. -/
namespace CompletionGateway.Client
open Text Text.Utf8

/-- What there is room for of a piece is what the limit leaves of it behind the bytes in front. -/
lemma append_room {limit : Nat} {collected : List UInt8} (h : collected.length ≤ limit) (piece : List UInt8) :
    collected ++ piece.take (limit - collected.length) = (collected ++ piece).take limit := by
  rw [List.take_append, List.take_of_length_le h]

lemma readBounded_fst {limit : Nat} {pieces : List (List UInt8)} {collected : List UInt8} (h : collected.length ≤ limit) :
    (readBounded limit pieces collected).1 = decodeLossy ((collected ++ pieces.flatten).take limit) := by
  induction pieces generalizing collected with
  | nil => rw [readBounded, List.flatten_nil, List.append_nil, List.take_of_length_le h]
  | cons piece pieces ih =>
    have hlength : ((collected ++ piece).take limit).length = min limit (collected ++ piece).length := List.length_take
    simp only [readBounded, append_room h, List.flatten_cons, ← List.append_assoc]
    split
    · -- the limit is reached within this piece
      exact congrArg decodeLossy (List.take_append_of_le_length (by omega)).symm
    · rw [List.take_of_length_le (by omega)]
      exact ih (by omega)

/-- The text that stands for the body of an answer. -/
structure Snippet (limit : Nat) (body : List UInt8) (text : String) : Prop where
  text_eq : text = decodeLossy (body.take limit)
  /-- It has the bytes of the body up to the limit, and those that it has grown by. -/
  size : (utf8 text).length = min limit body.length + growth (body.take limit)
  /-- So it keeps to the limit just if there is room to grow. -/
  bounded_iff : (utf8 text).length ≤ limit ↔ growth (body.take limit) ≤ limit - body.length
  tripled : (utf8 text).length ≤ 3 * limit
  chars : text.length ≤ limit
  /-- It does not grow if the body is well-formed up to the limit. -/
  wellFormed : (∃ s, decode? (body.take limit) = some s) → (utf8 text).length ≤ limit

lemma snippet_decodeLossy (limit : Nat) (body : List UInt8) : Snippet limit body (decodeLossy (body.take limit)) := by
  obtain ⟨hutf8, hgrowth, hchars, hflaws⟩ := sized (body.take limit)
  have hsize : (utf8 (decodeLossy (body.take limit))).length = min limit body.length + growth (body.take limit) := by
    rw [decodeLossy, utf8_ofList, hutf8, List.length_take]
  rw [List.length_take] at hgrowth hchars
  refine ⟨rfl, hsize, by omega, by omega, ?_, ?_⟩
  · rw [decodeLossy, String.length_ofList, List.length_map]
    omega
  · rintro ⟨s, hs⟩
    simp only [decode?] at hs
    split at hs
    · rename_i hall
      have hnone : growth (body.take limit) = 0 := by
        rw [growth, hflaws fun c hc => List.all_eq_true.mp hall c hc]
        rfl
      omega
    · cases hs

/-- An answer other than 2xx fails a request for a whole answer, and one for a stream, with the same snippet of its body,
in whatever pieces this arrives and however it ends. -/
theorem failure_snippet (c : Client) {status : Nat} (hstatus : isSuccess status = false) (pieces : List (List UInt8))
    (ending : BodyEnd) :
    ∃ text, Snippet c.limits.maxErrorBody pieces.flatten text ∧
      c.conclude (.answered status pieces ending) = .error (.api status text) ∧
      c.feed (.answered status pieces ending) = ⟨[], .failed (.api status text)⟩ ∧
      ∀ sink, c.stream sink (.answered status pieces ending) = .done (.error (.api status text)) := by
  have herror : c.apiError status pieces = .api status (decodeLossy (pieces.flatten.take c.limits.maxErrorBody)) := by
    rw [apiError, readBounded_fst (Nat.zero_le _), List.nil_append]
  refine ⟨_, snippet_decodeLossy _ _, ?_, ?_, fun sink => ?_⟩
  · simp only [conclude, hstatus, herror, Bool.false_eq_true, if_false]
  · simp only [feed, hstatus, herror, Bool.false_eq_true, if_false]
  · simp only [stream, hstatus, herror, Bool.false_eq_true, if_false]

/-! A limit of five bytes that cuts the fifth character of the body in two. -/

def cutBody : List UInt8 := utf8 "0123é語😀!"

def curt : Client := ⟨"", "", "", ⟨0, 0, 5⟩⟩

lemma cutBody_text : decodeLossy (cutBody.take 5) = "0123\uFFFD" := by decide +kernel

theorem snippet_beyond_limit : ∃ text, curt.conclude (.answered 500 [cutBody] .complete) = .error (.api 500 text) ∧
    curt.limits.maxErrorBody < (utf8 text).length := by
  refine ⟨decodeLossy (cutBody.take 5), by decide +kernel, ?_⟩
  rw [cutBody_text]
  decide

theorem failure_snippet_cut : isSuccess 500 = false ∧ decode? cutBody = some "0123é語😀!" ∧
    ∃ text, Snippet curt.limits.maxErrorBody [cutBody].flatten text ∧
      curt.conclude (.answered 500 [cutBody] .complete) = .error (.api 500 text) ∧ (utf8 text).length = 7 := by
  obtain ⟨text, hsnippet, hfails, -⟩ := failure_snippet curt (by decide : isSuccess 500 = false) [cutBody] .complete
  refine ⟨by decide, decode?_utf8 _, text, hsnippet, hfails, ?_⟩
  rw [hsnippet.text_eq, List.flatten_singleton]
  exact (congrArg (fun text => (utf8 text).length) cutBody_text).trans (by decide)

end CompletionGateway.Client
