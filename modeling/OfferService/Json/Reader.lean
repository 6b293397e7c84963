import OfferService.Json.Lexer
import OfferService.Json.Walk

/-
  OfferService.Json.Reader

  Reading values from tokens. A reader takes the tokens of one value from the front of a list, or
  says what is wrong; the first fault in the order of the text wins.
-/
namespace OfferService.Json

/-- Takes a value from the front of the tokens. -/
abbrev Reader (α : Type) := List Token → Except Fault (α × List Token)

/-- Where the tokens of a value come from: the text itself, or a value that was set aside and is
    known to be whole. -/
inductive Origin where
  | text
  | kept
  deriving DecidableEq, Repr

/-- A broken text, as a fault. -/
def unbroken (r : Except Break α) : Except Fault α := r.mapError Fault.broken

/-! ## Scalars -/

/-- What is wrong where a value of another kind was expected. -/
def mismatch (expected : Expected) : List Token → Fault
  | [] => .broken .endOfText
  | .null :: _ => .here (.wrongType .null expected)
  | .boolean b :: _ => .here (.wrongType (.boolean b) expected)
  | .number (.natural n) :: _ => .here (.wrongType (.integer n) expected)
  | .number (.negative n) :: _ => .here (.wrongType (.integer (-n)) expected)
  | .number (.real negative b) :: _ => .here (.wrongType (.real negative b) expected)
  | .string (.ok s) :: _ => .here (.wrongType (.text s) expected)
  | .string (.error b) :: _ => .broken b
  | .openArray :: _ => .here (.wrongType .sequence expected)
  | .openObject :: _ => .here (.wrongType .map expected)
  | .unclosed whenRead _ :: _ => .broken whenRead
  | .bad whenRead _ :: _ => .broken whenRead
  | _ => .broken .malformed

/-- A whole number of so many bits. -/
def natural (bits : Nat) : Reader Nat
  | .number (.natural n) :: rest =>
    if n < Nat.pow 2 bits then .ok (n, rest) else .error (.here (.outOfRange n (.natural bits)))
  | .number (.negative n) :: _ => .error (.here (.outOfRange (-n) (.natural bits)))
  | ts => .error (mismatch (.natural bits) ts)

/-- A truth value. -/
def boolean : Reader Bool
  | .boolean b :: rest => .ok (b, rest)
  | ts => .error (mismatch .boolean ts)

/-- Nothing. -/
def unit : Reader Unit
  | .null :: rest => .ok ((), rest)
  | ts => .error (mismatch .unit ts)

/-- The name of a variant. -/
def variantName : Reader String
  | .string (.ok s) :: rest => .ok (s, rest)
  | ts => .error (mismatch .variantName ts)

/-- Applies a function to what is read. -/
def Reader.map (f : α → β) (r : Reader α) : Reader β :=
  fun ts => (r ts).map fun (a, rest) => (f a, rest)

/-- A whole number of 64 bits. -/
def word64 : Reader UInt64 := (natural 64).map UInt64.ofNat

/-- A whole number of 32 bits. -/
def word32 : Reader UInt32 := (natural 32).map UInt32.ofNat

/-! ## Punctuation -/

/-- The colon after a key. -/
def colon : List Token → Except Fault (List Token)
  | [] => .error (.broken .endOfText)
  | .colon :: rest => .ok rest
  | _ => .error (.broken .malformed)

/-- Is there another element? Answers with the tokens it begins with, or with those after the
    array. -/
def nextElement (isFirst : Bool) : List Token → Except Fault (Bool × List Token)
  | [] => .error (.broken .endOfText)
  | .closeArray :: rest => .ok (false, rest)
  | t :: rest =>
    if isFirst then .ok (true, t :: rest)
    else
      match t, rest with
      | .comma, [] => .error (.broken .endOfText)
      | .comma, .closeArray :: _ => .error (.broken .malformed)
      | .comma, rest => .ok (true, rest)
      | _, _ => .error (.broken .malformed)

/-- A key, once it is known that one has to stand here. -/
def key : List Token → Except Fault (String × List Token)
  | [] => .error (.broken .endOfText)
  | .string (.ok s) :: rest => .ok (s, rest)
  | .string (.error b) :: _ => .error (.broken b)
  | .unclosed whenRead _ :: _ => .error (.broken whenRead)
  | _ => .error (.broken .malformed)

/-- Is there another member? Answers with its key and the tokens after that, or with the tokens
    after the object. -/
def nextKey (isFirst : Bool) : List Token → Except Fault (Option String × List Token)
  | [] => .error (.broken .endOfText)
  | .closeObject :: rest => .ok (none, rest)
  | t :: rest =>
    if isFirst then (key (t :: rest)).map fun (k, rest) => (some k, rest)
    else
      match t with
      | .comma => (key rest).map fun (k, rest) => (some k, rest)
      | _ => .error (.broken .malformed)

/-! ## Arrays -/

/-- The elements from number `done.length` on; `fuel` bounds how many there can be. -/
def elements (item : Reader α) :
    (fuel : Nat) → (done : List α) → List Token → Except Fault (List α × List Token)
  | 0, _, _ => .error (.broken .endOfText)
  | fuel + 1, done, ts =>
    match nextElement done.isEmpty ts with
    | .error e => .error e
    | .ok (false, rest) => .ok (done.reverse, rest)
    | .ok (true, rest) =>
      match within (.index done.length) (item rest) with
      | .error e => .error e
      | .ok (a, rest) => elements item fuel (a :: done) rest

/-- An array of things of one kind. -/
def sequence (item : Reader α) : Reader (List α)
  | .openArray :: rest => elements item (rest.length + 1) [] rest
  | ts => .error (mismatch .sequence ts)

/-- How many elements are left in an array that is known to be whole. -/
def countElements : (fuel : Nat) → (isFirst : Bool) → List Token → Nat
  | 0, _, _ => 0
  | fuel + 1, isFirst, ts =>
    match nextElement isFirst ts with
    | .ok (true, rest) =>
      match skipValue rest with
      | .ok rest => countElements fuel false rest + 1
      | .error _ => 1
    | _ => 0

/-- The end of an array in which `count` elements were expected and read. -/
def endArray (origin : Origin) (count : Nat) : List Token → Except Fault (List Token)
  | .closeArray :: rest => .ok rest
  | [] => .error (.broken .endOfText)
  | ts =>
    match origin with
    | .text => .error (.broken .malformed)
    | .kept =>
      let more := countElements ts.length (count == 0) ts
      .error (.here (.wrongLength (count + more) (.elements count)))

/-! ## Whole texts -/

/-- Reads a value from a text and leaves what follows it unexamined. -/
def readPrefix (r : Reader α) (text : List UInt8) : Except Fault α :=
  (r (tokens text)).map (·.1)

/-- Reads a text that holds one value and nothing else. -/
def read (r : Reader α) (text : List UInt8) : Except Fault α := do
  let (a, rest) ← r (tokens text)
  if rest.isEmpty then .ok a else .error (.broken .malformed)

end OfferService.Json
