import CompletionGateway.EventStream.Emitter
import CompletionGateway.Proofs.EventStream.Lines
import CompletionGateway.Proofs.Json.Printable
import CompletionGateway.Proofs.Json.Records

/-! Bodies of server-sent events are read back as what was written. Data that is one line and neither begins nor ends
with white space is read back unchanged, and so are JSON texts and the end mark. -/
namespace CompletionGateway.EventStream
open Text Text.Utf8

/-- Data that a line carries unchanged. -/
structure Clean (cs : List Char) : Prop where
  oneLine : '\n' ∉ cs
  first : ∀ c ∈ cs.head?, isBlank c = false
  last : ∀ c ∈ cs.getLast?, isBlank c = false

/-- What a data line is read as. -/
def dataLine (data : String) : Line := if data = endMark then .done else .data data

lemma newline_of_mem_encoded {cs : List Char} (h : 10 ∈ encoded cs) : '\n' ∈ cs := by
  obtain ⟨c, hc, hb⟩ := List.mem_flatMap.mp h
  by_cases hascii : c.toNat < 0x80
  · rw [encoded_ascii hascii] at hb
    have hvalue := congrArg UInt8.toNat (List.mem_singleton.mp hb)
    rw [UInt8.toNat_ofNat_of_lt' (show c.toNat < 256 by omega)] at hvalue
    obtain rfl : c = '\n' := Char.toNat_inj.mp hvalue.symm
    exact hc
  · exact absurd (le_of_mem_encoded (Nat.le_of_not_lt hascii) hb) (by decide)

/-! ### Lines -/

/-- A line of another field carries nothing. -/
lemma parseLine_other {cs : List Char} (h : ¬ dataField <+: cs) : parseLine (encoded cs) = none := by
  rw [parseLine, decodeLossy_encoded, String.toList_ofList]
  dsimp only
  refine if_neg fun htake => h ?_
  have hfield : dataField <+: cs.rdropWhile (· == '\r') := htake ▸ List.take_prefix 5 (cs.rdropWhile (· == '\r'))
  exact hfield.trans (List.rdropWhile_prefix _ _)

lemma parseLine_data {cs : List Char} (h : Clean cs) :
    parseLine (encoded ("data: ".toList ++ cs)) = some (dataLine (String.ofList cs)) := by
  -- nothing is cut off at the end of the line
  have hline : (dataField ++ ' ' :: cs).rdropWhile (· == '\r') = dataField ++ ' ' :: cs := by
    rw [List.rdropWhile_eq_self_iff]
    intro hne hreturn
    rw [List.getLast_append_of_ne_nil _ (List.cons_ne_nil ' ' cs)] at hreturn
    rcases cs.eq_nil_or_concat' with rfl | ⟨mid, b, rfl⟩
    · exact absurd hreturn (by decide)
    · obtain rfl : b = '\r' := by simpa using hreturn
      exact absurd (h.last '\r' (by simp)) (by decide)
  have hstart : trimStart (' ' :: cs) = cs := by
    have hspace : isBlank ' ' = true := by decide
    rw [trimStart, List.dropWhile_cons_of_pos hspace]
    cases cs with
    | nil => rfl
    | cons a cs => exact List.dropWhile_cons_of_neg (by simp [h.first a rfl])
  have hend : trimEnd cs = cs := by
    refine List.rdropWhile_eq_self_iff.mpr fun hne => ?_
    simp [h.last _ (List.getLast?_eq_getLast_of_ne_nil hne)]
  have hchars : "data: ".toList ++ cs = dataField ++ ' ' :: cs := rfl
  have htake : (dataField ++ ' ' :: cs).take 5 = dataField := rfl
  have hdrop : (dataField ++ ' ' :: cs).drop 5 = ' ' :: cs := rfl
  have hdropped : ((dataField ++ ' ' :: cs).reverse.dropWhile (· == '\r')).reverse = dataField ++ ' ' :: cs := hline
  rw [parseLine, decodeLossy_encoded, String.toList_ofList, hchars]
  dsimp only
  rw [hdropped, if_pos htake, hdrop, hstart, hend]
  rfl

/-- The empty line carries nothing. -/
lemma parseLine_nil : parseLine [] = none := by
  have hempty := parseLine_other (show ¬ dataField <+: [] by simp [dataField])
  rwa [encoded_nil] at hempty

/-! ### Events -/

namespace Event

/-- The lines of an event, the blank one behind it included. -/
def lines (e : Event) : List (List Char) :=
  (e.name.toList.map fun n => "event: ".toList ++ n.toList) ++ ["data: ".toList ++ e.data.toList, []]

/-- An event whose name and data are lines of their own. -/
structure Plain (e : Event) : Prop where
  name : ∀ n ∈ e.name, '\n' ∉ n.toList
  data : Clean e.data.toList

lemma chars_eq (e : Event) : e.chars = e.lines.flatMap (· ++ ['\n']) := by
  obtain ⟨name, data⟩ := e
  cases name <;> simp [chars, lines]

lemma Plain.oneLine {e : Event} (h : e.Plain) : ∀ l ∈ e.lines, '\n' ∉ l := by
  intro l hl hmem
  rcases List.mem_append.mp hl with hl | hl
  · obtain ⟨n, hn, rfl⟩ := List.mem_map.mp hl
    rcases List.mem_append.mp hmem with hmem | hmem
    · exact absurd hmem (by decide)
    · exact h.name n (Option.mem_toList.mp hn) hmem
  · rcases List.mem_pair.mp hl with rfl | rfl
    · rcases List.mem_append.mp hmem with hmem | hmem
      · exact absurd hmem (by decide)
      · exact h.data.oneLine hmem
    · exact List.not_mem_nil hmem

/-- Of the lines of an event only the data line carries something. -/
lemma Plain.carried {e : Event} (h : e.Plain) : (e.lines.map encoded).filterMap parseLine = [dataLine e.data] := by
  have hname : ∀ n : String, ¬ dataField <+: "event: ".toList ++ n.toList := by
    intro n hfield
    exact absurd (List.cons_prefix_cons.mp hfield).1 (by decide)
  have hnames : ((e.name.toList.map fun n => "event: ".toList ++ n.toList).map encoded).filterMap parseLine = [] := by
    rw [List.filterMap_eq_nil_iff]
    simp only [List.mem_map]
    rintro _ ⟨_, ⟨n, -, rfl⟩, rfl⟩
    exact parseLine_other (hname n)
  rw [lines, List.map_append, List.filterMap_append, hnames, List.map_cons, List.map_cons, List.map_nil,
    List.filterMap_cons, parseLine_data h.data, List.filterMap_cons, encoded_nil, parseLine_nil, String.ofList_toList]
  rfl

end Event

/-! ### Bodies -/

lemma encoded_terminated (ls : List (List Char)) :
    encoded (ls.flatMap (· ++ ['\n'])) = (ls.map encoded).flatMap (· ++ [10]) := by
  have hfeed : encoded ['\n'] = [10] := rfl
  induction ls with
  | nil => rfl
  | cons l ls ih => rw [List.flatMap_cons, encoded_append, encoded_append, ih, hfeed, List.map_cons, List.flatMap_cons]

/-- The lines of a body are those of its events, and an empty one behind them. -/
lemma rawLines_events {es : List Event} (h : ∀ e ∈ es, e.Plain) :
    rawLines (utf8 (String.ofList (es.flatMap Event.chars))) = (es.flatMap Event.lines).map encoded ++ [[]] := by
  have hchars : es.flatMap Event.chars = (es.flatMap Event.lines).flatMap (· ++ ['\n']) := by
    rw [List.flatMap_assoc, funext Event.chars_eq]
  have hlines : ∀ l ∈ (es.flatMap Event.lines).map encoded, 10 ∉ l := by
    intro l hl hmem
    obtain ⟨cs, hcs, rfl⟩ := List.mem_map.mp hl
    obtain ⟨e, he, hcs⟩ := List.mem_flatMap.mp hcs
    exact (h e he).oneLine cs hcs (newline_of_mem_encoded hmem)
  have hend : rawLines [] = [[]] := rfl
  have hbody := rawLines_terminated hlines []
  rw [List.append_nil] at hbody
  rw [utf8_ofList, hchars, encoded_terminated, hbody, hend]

/-- A body is read as the data of its events. -/
theorem linesOf_events {es : List Event} (h : ∀ e ∈ es, e.Plain) :
    linesOf (utf8 (String.ofList (es.flatMap Event.chars))) = es.map (dataLine ·.data) := by
  rw [linesOf, rawLines_events h, List.filterMap_append, List.filterMap_cons, parseLine_nil, List.filterMap_nil,
    List.append_nil]
  induction es with
  | nil => rfl
  | cons e es ih =>
    rw [List.flatMap_cons, List.map_append, List.filterMap_append, (h e List.mem_cons_self).carried,
      ih fun e he => h e (List.mem_cons_of_mem _ he)]
    rfl

/-- A body of unnamed events is read as their data. -/
theorem linesOf_body {datas : List String} (h : ∀ data ∈ datas, Clean data.toList) :
    linesOf (utf8 (String.ofList ((datas.map (Event.mk none)).flatMap Event.chars))) = datas.map dataLine := by
  have hplain : ∀ e ∈ datas.map (Event.mk none), e.Plain := by
    intro e he
    obtain ⟨data, hdata, rfl⟩ := List.mem_map.mp he
    exact ⟨by simp, h data hdata⟩
  rw [linesOf_events hplain, List.map_map]
  rfl

/-! ### What the gateway writes -/

lemma clean_endMark : Clean endMark.toList := by
  have hmark : endMark.toList = ['[', 'D', 'O', 'N', 'E', ']'] := rfl
  rw [hmark]
  refine ⟨by decide, ?_, ?_⟩ <;> rintro _ ⟨⟩ <;> decide

lemma isBlank_of_isDigit {c : Char} (h : c.isDigit = true) : isBlank c = false := by
  have hrange := Json.toNat_of_isDigit h
  simp only [isBlank, Bool.or_eq_false_iff, Bool.and_eq_false_iff, decide_eq_false_iff_not]
  omega

lemma clean_text (j : Json) : Clean j.text.toList := by
  rw [Json.text, String.toList_ofList]
  refine ⟨(Json.printable_chars j).no_newline, ?_, ?_⟩
  · obtain ⟨c, cs, hcs, hc⟩ := Json.head_chars j
    rw [hcs]
    rintro _ ⟨⟩
    rcases hc with rfl | hc | rfl | rfl | rfl | rfl | rfl | rfl
    case inr.inl => exact isBlank_of_isDigit hc
    all_goals decide
  · obtain ⟨cs, c, hcs, hc⟩ := Json.last_chars j
    rw [hcs, List.getLast?_concat]
    rintro _ ⟨⟩
    rcases hc with hc | rfl | rfl | rfl | rfl | rfl
    case inl => exact isBlank_of_isDigit hc
    all_goals decide

/-- The end mark is not JSON. -/
lemma text_ne_endMark (j : Json) : j.text ≠ endMark := by
  intro heq
  have hparse := Json.parse_text j
  have hmark : Json.Tree.parse (utf8 endMark) = none := rfl
  rw [heq, hmark] at hparse
  cases hparse

lemma dataLine_text (j : Json) : dataLine j.text = .data j.text := if_neg (text_ne_endMark j)

/-- The body of a stream of frames is read back as their texts and the end mark. -/
theorem linesOf_frames (fs : List StreamFrame) :
    linesOf (utf8 (String.ofList ((fs.map Event.ofFrame ++ [Event.ending]).flatMap Event.chars))) =
      fs.map (fun f => .data f.toJson.text) ++ [.done] := by
  have hevents : fs.map Event.ofFrame ++ [Event.ending] =
      (fs.map (fun f => f.toJson.text) ++ [endMark]).map (Event.mk none) := by
    simp [Event.ofFrame, Event.ofJson, Event.ending]
  have hclean : ∀ data ∈ fs.map (fun f => f.toJson.text) ++ [endMark], Clean data.toList := by
    intro data hdata
    rcases List.mem_append.mp hdata with hdata | hdata
    · obtain ⟨f, -, rfl⟩ := List.mem_map.mp hdata
      exact clean_text _
    · rw [List.mem_singleton.mp hdata]
      exact clean_endMark
  rw [hevents, linesOf_body hclean, List.map_append, List.map_map]
  simp only [Function.comp_def, dataLine_text]
  rfl

end CompletionGateway.EventStream
