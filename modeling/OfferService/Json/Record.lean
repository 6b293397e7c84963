import OfferService.Json.Reader

/-
  OfferService.Json.Record

  Records: objects with known members, or arrays of their values in order. Members are gathered in
  a draft, in whatever order they come. A member that is not known is passed over; one that comes
  twice is a fault, and so is one that never comes, unless the draft can do without.
-/
namespace OfferService.Json

/-! ## Shapes -/

/-- A member of a record. -/
structure Member (δ : Type) where
  name : String
  /-- Does the draft have this member already? -/
  isSet : δ → Bool
  /-- Reads the member's value into the draft. -/
  read : Origin → δ → Reader δ

/-- A member that is one field of the draft. -/
def Member.field (name : String) (get : δ → Option β) (set : δ → β → δ)
    (value : Origin → Reader β) : Member δ where
  name := name
  isSet d := (get d).isSome
  read origin d := (value origin).map (set d)

/-- How a record is written. -/
structure Shape (δ α : Type) where
  /-- The record as a message names it. -/
  expected : Expected
  /-- The record as a message names it when an array of its values is too short; records without
      one are not written as arrays. -/
  asArray : Option Expected
  members : List (Member δ)
  /-- The draft without any member. -/
  blank : δ
  /-- The record, or the name of the first member that is missing. -/
  build : δ → Except String α

namespace Shape

/-- The member of a name. -/
def member? (s : Shape δ α) (name : String) : Option (Member δ) :=
  s.members.find? fun m => m.name == name

/-! ## Objects -/

/-- The members of an object that are still to come; `fuel` bounds how many there can be. -/
def readMembers (s : Shape δ α) (origin : Origin) :
    (fuel : Nat) → (isFirst : Bool) → δ → List Token → Except Fault (δ × List Token)
  | 0, _, _, _ => .error (.broken .endOfText)
  | fuel + 1, isFirst, draft, ts => do
    let (name?, rest) ← nextKey isFirst ts
    match name? with
    | none => .ok (draft, rest)
    | some name =>
      match s.member? name with
      | some m =>
        if m.isSet draft then .error (.here (.duplicateField name))
        else
          let rest ← colon rest
          let (draft, rest) ← within (.key name) (m.read origin draft rest)
          s.readMembers origin fuel false draft rest
      | none =>
        let rest ← colon rest
        let rest ← unbroken (skipValue rest)
        s.readMembers origin fuel false draft rest

/-- A record written as an object, after its opening brace. -/
def readObject (s : Shape δ α) (origin : Origin) (ts : List Token) :
    Except Fault (α × List Token) := do
  let (draft, rest) ← s.readMembers origin (ts.length + 1) true s.blank ts
  match s.build draft with
  | .ok a => .ok (a, rest)
  | .error name => .error (.here (.missingField name))

/-! ## Arrays -/

/-- The values of an array for the given members, the first of which has number `i`; returns the
    draft, and the tokens after the array or the length at which it ended. -/
def readValues (origin : Origin) :
    (i : Nat) → List (Member δ) → δ → List Token → Except Fault (δ × Nat × List Token)
  | i, [], draft, ts => do
    let rest ← endArray origin i ts
    .ok (draft, i, rest)
  | i, m :: members, draft, ts => do
    let (more, rest) ← nextElement (i == 0) ts
    if more then
      let (draft, rest) ← within (.index i) (m.read origin draft rest)
      readValues origin (i + 1) members draft rest
    else .ok (draft, i, rest)

/-- A record written as an array, after its opening bracket. -/
def readArray (s : Shape δ α) (origin : Origin) (tooShort : Expected) (ts : List Token) :
    Except Fault (α × List Token) := do
  let (draft, length, rest) ← readValues origin 0 s.members s.blank ts
  match s.build draft with
  | .ok a => .ok (a, rest)
  | .error _ => .error (.here (.wrongLength length tooShort))

/-! ## Records -/

/-- Reads a record. -/
def read (s : Shape δ α) (origin : Origin) : Reader α
  | .openObject :: rest => s.readObject origin rest
  | .openArray :: rest =>
    match s.asArray with
    | some tooShort => s.readArray origin tooShort rest
    | none => .error (mismatch s.expected (.openArray :: rest))
  | ts => .error (mismatch s.expected ts)

end Shape

/-- A member that has to be there. -/
def required (name : String) : Option β → Except String β
  | some b => .ok b
  | none => .error name

end OfferService.Json
