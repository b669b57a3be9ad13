import CompletionGateway.Failure
import CompletionGateway.Text.Blank
import CompletionGateway.Text.Utf8

/-! Reading a body of server-sent events as it arrives in pieces. Bytes wait in a buffer until their line is
complete. Only `data` lines carry a payload; the payload `[DONE]` is the end mark. A line longer than the
limit ends the reading: the buffer is dropped, and with it the lines read from the same piece. -/
namespace CompletionGateway.EventStream

/-- A line that carries something. -/
inductive Line where
  | data (payload : String)
  | done
  deriving DecidableEq, Repr

/-- The mark at the end of a stream. -/
def endMark : String := "[DONE]"

def dataField : List Char := ['d', 'a', 't', 'a', ':']

/-- What a line carries, given without its line feed. -/
def parseLine (raw : List UInt8) : Option Line :=
  let line := ((Text.Utf8.decodeLossy raw).toList.reverse.dropWhile (· == '\r')).reverse
  if line.take 5 = dataField then
    let payload := String.ofList (Text.trimEnd (Text.trimStart (line.drop 5)))
    some (if payload = endMark then .done else .data payload)
  else none

structure Decoder where
  buffer : List UInt8
  limit : Nat
  deriving DecidableEq, Repr

namespace Decoder

/-- The longest line accepted unless another limit is set. -/
def defaultLimit : Nat := 1048576

def fresh (limit : Nat) : Decoder := ⟨[], limit⟩

def isNewline (b : UInt8) : Bool := b == 10

/-- The lines that are complete, in order, and the bytes behind the last of them; `none` as soon as a line
or those bytes are longer than the limit. -/
def drain (limit : Nat) (bytes : List UInt8) (out : List Line) : Option (List Line × List UInt8) :=
  match _h : bytes.dropWhile (!isNewline ·) with
  | [] => if limit < bytes.length then none else some (out.reverse, bytes)
  | _ :: rest =>
    let line := bytes.takeWhile (!isNewline ·)
    if limit < line.length then none
    else drain limit rest ((parseLine line).toList ++ out)
termination_by bytes.length
decreasing_by
  have := congrArg List.length _h
  have := (List.dropWhile_sublist (!isNewline ·) (l := bytes)).length_le
  simp_all only [List.length_cons]; omega

def oversized (limit : Nat) : ProviderError :=
  .streamInterrupted ("stream line exceeds " ++ toString limit ++ " bytes")

/-- Feed a piece of the body, and take the lines that it completes. -/
def push (d : Decoder) (bytes : List UInt8) : Except ProviderError (List Line) × Decoder :=
  match drain d.limit (d.buffer ++ bytes) [] with
  | some (lines, rest) => (.ok lines, ⟨rest, d.limit⟩)
  | none => (.error (oversized d.limit), fresh d.limit)

/-- The body has ended: take the last line, which no line feed ended. -/
def finish (d : Decoder) : Option Line × Decoder := (parseLine d.buffer, fresh d.limit)

end Decoder
end CompletionGateway.EventStream
