import OfferService.Json.Record

/-
  OfferService.Json.Tagged

  A choice of variants, written as an object with a tag that names the variant and a content, in
  either order, or as an array of the two. A content that comes before its tag is set aside until
  the variant is known.
-/
namespace OfferService.Json

/-- A choice of variants. -/
structure Choice (α : Type) where
  name : String
  tagKey : String
  contentKey : String
  /-- The variants: the name of each, and how its content is read. -/
  variants : List (String × (Origin → Reader α))

/-- How deeply a content may nest that is set aside: the text may open 127 containers in one
    another, and the object around the content is one of them. -/
def keptDepth : Nat := 126

namespace Choice

/-- How a message names the whole choice. -/
def expected (c : Choice α) : Expected := .tagged c.name

/-- The reader of a variant's content. -/
def variant (c : Choice α) (name : String) : Except Fault (Origin → Reader α) :=
  match c.variants.lookup name with
  | some r => .ok r
  | none => .error (.here (.unknownVariant name (c.variants.map (·.1))))

/-- A tag: the name of a variant, or an object that maps it to nothing. -/
def readTag (c : Choice α) : Reader (Origin → Reader α)
  | [] => .error (.broken .endOfText)
  | .openObject :: rest => do
    let (name, rest) ← variantName rest
    let content ← c.variant name
    let rest ← colon rest
    let ((), rest) ← unit rest
    match rest with
    | .closeObject :: rest => .ok (content, rest)
    | [] => .error (.broken .endOfText)
    | _ => .error (.broken .malformed)
  | .string (.ok name) :: rest => do
    let content ← c.variant name
    .ok (content, rest)
  | .string (.error b) :: _ => .error (.broken b)
  | .unclosed whenRead _ :: _ => .error (.broken whenRead)
  | _ => .error (.broken .malformed)

/-! ## Objects -/

/-- The two members that matter. -/
inductive Role where
  | tag
  | content
  deriving DecidableEq, Repr

/-- The member's key. -/
def key (c : Choice α) : Role → String
  | .tag => c.tagKey
  | .content => c.contentKey

/-- The next member that matters, and the tokens after its colon or, if there is none, after the
    object. A key that must not come again is a fault before its colon is looked at. -/
def nextRole (c : Choice α) (barred : List Role) :
    (fuel : Nat) → (isFirst : Bool) → List Token → Except Fault (Option Role × List Token)
  | 0, _, _ => .error (.broken .endOfText)
  | fuel + 1, isFirst, ts => do
    let (name?, rest) ← nextKey isFirst ts
    match name? with
    | none => .ok (none, rest)
    | some name =>
      match [Role.tag, Role.content].find? fun r => c.key r == name with
      | some role =>
        if barred.contains role then .error (.here (.duplicateField name))
        else
          let rest ← Json.colon rest
          .ok (some role, rest)
      | none =>
        let rest ← Json.colon rest
        let rest ← unbroken (skipValue rest)
        c.nextRole barred fuel false rest

/-- The rest of an object whose tag and content were read. -/
def readEnd (c : Choice α) (ts : List Token) : Except Fault (List Token) := do
  let (_, rest) ← c.nextRole [.tag, .content] (ts.length + 1) false ts
  .ok rest

/-- A choice written as an object, after its opening brace. -/
def readObject (c : Choice α) : Reader α := fun ts => do
  let (role?, rest) ← c.nextRole [] (ts.length + 1) true ts
  match role? with
  | none => .error (.here (.missingField c.tagKey))
  | some .tag =>
    let (content, rest) ← c.readTag rest
    let (role?, rest) ← c.nextRole [.tag] (ts.length + 1) false rest
    match role? with
    | none => .error (.here (.missingField c.contentKey))
    | some _ =>
      let (a, rest) ← content .text rest
      let rest ← c.readEnd rest
      .ok (a, rest)
  | some .content =>
    let (kept, rest) ← unbroken (keepValue keptDepth rest)
    let (role?, rest) ← c.nextRole [.content] (ts.length + 1) false rest
    match role? with
    | none => .error (.here (.missingField c.tagKey))
    | some _ =>
      let (content, rest) ← c.readTag rest
      let (a, _) ← content .kept kept
      let rest ← c.readEnd rest
      .ok (a, rest)

/-! ## Arrays -/

/-- A choice written as an array, after its opening bracket. -/
def readArray (c : Choice α) : Reader α := fun ts => do
  let (more, rest) ← nextElement true ts
  if more then
    let (content, rest) ← c.readTag rest
    let (more, rest) ← nextElement false rest
    if more then
      let (a, rest) ← content .text rest
      let rest ← endArray .text 2 rest
      .ok (a, rest)
    else .error (.here (.wrongLength 1 c.expected))
  else .error (.here (.wrongLength 0 c.expected))

/-- Reads a choice. -/
def read (c : Choice α) : Reader α
  | .openObject :: rest => c.readObject rest
  | .openArray :: rest => c.readArray rest
  | ts => .error (mismatch c.expected ts)

end Choice

end OfferService.Json
