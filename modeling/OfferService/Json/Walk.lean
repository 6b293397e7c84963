import OfferService.Json.Token

/-
  OfferService.Json.Walk

  Going past one value without reading it. The containers that are open are kept in a list, so a
  value may nest as deeply as it likes, unless a bound is set: a value that is set aside to be read
  later may nest only so far, and is examined as closely as one that is read.
-/
namespace OfferService.Json

/-! ## Positions -/

/-- A container that was opened and not yet closed. -/
inductive Container where
  | array
  | object
  deriving DecidableEq, Repr

/-- What has to come next. -/
inductive Awaited where
  | value
  /-- The first part of a container, or its end. -/
  | first
  | key
  | colon
  /-- A comma, or the end of the container. -/
  | separator
  deriving DecidableEq, Repr

/-- How closely a value is examined. -/
inductive Scrutiny where
  /-- The value is passed over. -/
  | passing
  /-- The value is set aside, and may open at most `depth` containers in one another. -/
  | keeping (depth : Nat)
  deriving DecidableEq, Repr

namespace Scrutiny

/-- May one more container be opened inside the `opened` ones? -/
def admits (s : Scrutiny) (opened : List Container) : Bool :=
  match s with
  | .passing => true
  | .keeping depth => opened.length < depth

/-- What is wrong with a token, if anything is. -/
def check (s : Scrutiny) : Token → Option Break
  | .string (.error b) => match s with | .passing => none | .keeping _ => some b
  | .number .beyond => match s with | .passing => none | .keeping _ => some .malformed
  | .unclosed whenRead whenPassed =>
    match s with | .passing => some whenPassed | .keeping _ => some whenRead
  | .bad whenRead whenPassed =>
    match s with | .passing => some whenPassed | .keeping _ => some whenRead
  | _ => none

end Scrutiny

/-! ## The walk -/

/-- Where a walk stands: the open containers, innermost first, and what has to come next. -/
structure Walk where
  opened : List Container := []
  awaited : Awaited := .value
  deriving DecidableEq, Repr

/-- What one token makes of a walk. -/
inductive Walk.Outcome where
  | more (w : Walk)
  /-- The value ended with this token. -/
  | done
  | broken (b : Break)
  deriving DecidableEq, Repr

namespace Walk

/-- After a value inside `opened`: the end, or the next part of the container around it. -/
def afterValue : List Container → Outcome
  | [] => .done
  | opened => .more ⟨opened, .separator⟩

/-- Opens a container inside `opened`. -/
def enter (s : Scrutiny) (c : Container) (opened : List Container) : Outcome :=
  if s.admits opened then .more ⟨c :: opened, .first⟩ else .broken .malformed

/-- The token `t` where a value has to begin. -/
def onValue (s : Scrutiny) (opened : List Container) (t : Token) : Outcome :=
  match s.check t with
  | some b => .broken b
  | none =>
    match t with
    | .null | .boolean _ | .number _ | .string _ => afterValue opened
    | .openArray => enter s .array opened
    | .openObject => enter s .object opened
    | _ => .broken .malformed

/-- The token `t` where a key has to stand. -/
def onKey (s : Scrutiny) (opened : List Container) (t : Token) : Outcome :=
  match t with
  | .string _ | .unclosed _ _ =>
    match s.check t with
    | some b => .broken b
    | none => .more ⟨opened, .colon⟩
  | _ => .broken .malformed

/-- One token of the walk. -/
def step (s : Scrutiny) (w : Walk) (t : Token) : Outcome :=
  match w.awaited, w.opened, t with
  | .value, opened, t => onValue s opened t
  | .first, .array :: opened, .closeArray => afterValue opened
  | .first, .array :: opened, t => onValue s (.array :: opened) t
  | .first, .object :: opened, .closeObject => afterValue opened
  | .first, .object :: opened, t => onKey s (.object :: opened) t
  | .key, opened, t => onKey s opened t
  | .colon, opened, .colon => .more ⟨opened, .value⟩
  | .separator, .array :: opened, .comma => .more ⟨.array :: opened, .value⟩
  | .separator, .array :: opened, .closeArray => afterValue opened
  | .separator, .object :: opened, .comma => .more ⟨.object :: opened, .key⟩
  | .separator, .object :: opened, .closeObject => afterValue opened
  | _, _, _ => .broken .malformed

end Walk

/-- Walks to the end of the value; returns its tokens, of which `taken` lie behind, last one first,
    and those after it. -/
def walk (s : Scrutiny) :
    Walk → List Token → List Token → Except Break (List Token × List Token)
  | _, _, [] => .error .endOfText
  | w, taken, t :: rest =>
    match w.step s t with
    | .done => .ok ((t :: taken).reverse, rest)
    | .broken b => .error b
    | .more w => walk s w (t :: taken) rest

/-- What follows a value that is passed over. -/
def skipValue (ts : List Token) : Except Break (List Token) :=
  (walk .passing {} [] ts).map (·.2)

/-- Sets a value aside: its tokens, and what follows them. -/
def keepValue (depth : Nat) (ts : List Token) : Except Break (List Token × List Token) :=
  walk (.keeping depth) {} [] ts

end OfferService.Json
