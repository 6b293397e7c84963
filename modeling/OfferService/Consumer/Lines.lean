import OfferService.Publisher.Basic
import OfferService.Text.Blank
import OfferService.Text.Utf8

/-
  OfferService.Consumer.Lines

  Messages from a text, one a line. Blanks around a message do not belong to it, and lines that hold
  nothing else are passed over.
-/
namespace OfferService

/-- A source of messages that is read line by line. -/
structure Lines where
  topic : String
  /-- The bytes that were not read yet. -/
  rest : List UInt8
  deriving DecidableEq, Repr

namespace Lines

/-- The byte that ends a line. -/
def lineFeed : UInt8 := 0x0a

/-- The first line with its end, last byte first, after the bytes `before`; and what follows. -/
def cutLine (before : List UInt8) : List UInt8 → List UInt8 × List UInt8
  | [] => (before, [])
  | b :: rest => if b = lineFeed then (b :: before, rest) else cutLine (b :: before) rest

/-- What is left after a line is no longer than the text. -/
theorem cutLine_length (before bytes : List UInt8) :
    (cutLine before bytes).2.length ≤ bytes.length := by
  induction bytes generalizing before with
  | nil => simp [cutLine]
  | cons b rest ih =>
    unfold cutLine
    split
    · simp
    · exact Nat.le_succ_of_le (ih _)

/-- What is left after the first line of some bytes is shorter than they. -/
theorem cutLine_length_lt (b : UInt8) (rest : List UInt8) :
    (cutLine [] (b :: rest)).2.length < (b :: rest).length := by
  unfold cutLine
  split
  · simp
  · exact Nat.lt_succ_of_le (cutLine_length _ _)

/-- The text of a line without the blanks around it. -/
def payload (line : List UInt8) : Except Text.Utf8Fault (List Char) :=
  (Text.Utf8.decode line).map Text.trim

/-- The next message, or nothing at the end; and what is left of the text. -/
def nextPayload (bytes : List UInt8) : Except Text.Utf8Fault (Option (List Char) × List UInt8) :=
  match bytes with
  | [] => .ok (none, [])
  | b :: rest =>
    let cut := cutLine [] (b :: rest)
    match payload cut.1.reverse with
    | .error e => .error e
    | .ok [] => nextPayload cut.2
    | .ok text => .ok (some text, cut.2)
termination_by bytes.length
decreasing_by exact cutLine_length_lt b rest

/-- The next message, or nothing at the end; and the source after it. -/
def next (l : Lines) : Except Text.Utf8Fault (Option Envelope × Lines) :=
  (nextPayload l.rest).map fun (text, rest) =>
    (text.map fun cs => { topic := l.topic, key := l.topic, payload := String.ofList cs },
      { l with rest })

end Lines

end OfferService
