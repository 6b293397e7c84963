import OfferService.Text.Cut

/-
  OfferService.Http.MediaType

  Which content types announce a JSON text: `application/json` and types that end in `+json`, in
  any case, with any parameters that are well formed.
-/
namespace OfferService.Http.MediaType

/-! ## Characters -/

/-- Can this character stand in a token? -/
def isTokenChar (c : Char) : Bool := c.isAlphanum || "!#$%&'*+-.^_`|~".toList.contains c

/-- Can this character stand between quotes? -/
def isQuotable (c : Char) : Bool := 31 < c.toNat && c.toNat ≠ 127

/-- Can this character stand in a header that is read as text? -/
def isVisible (c : Char) : Bool := c = '\t' || (32 ≤ c.toNat && c.toNat < 127)

/-! ## Parameters -/

/-- Where a reader of parameters stands. -/
inductive Place where
  | before
  | name
  /-- After the equals sign. -/
  | valueStart
  | value
  /-- After the quote that opens a value. -/
  | quoteStart
  | quote
  /-- After the quote that closes a value. -/
  | afterQuote
  deriving DecidableEq, Repr

namespace Place

/-- Reads one character. The first one between quotes is never the closing quote. -/
def next (p : Place) (c : Char) : Option Place :=
  match p with
  | .before => if c = ' ' then some .before else if isTokenChar c then some .name else none
  | .name => if c = '=' then some .valueStart else if isTokenChar c then some .name else none
  | .valueStart => if c = '"' then some .quoteStart else if isTokenChar c then some .value else none
  | .value => if c = ';' then some .before else if isTokenChar c then some .value else none
  | .quoteStart => if isQuotable c then some .quote else none
  | .quote => if c = '"' then some .afterQuote else if isQuotable c then some .quote else none
  | .afterQuote => if c = ';' then some .before else if c = ' ' then some .afterQuote else none

/-- May the parameters end here? -/
def isEnd : Place → Bool
  | .before | .valueStart | .value | .afterQuote => true
  | .name | .quoteStart | .quote => false

end Place

/-- Are these parameters well formed? -/
def areParameters (s : List Char) : Bool := (s.foldlM Place.next .before).any Place.isEnd

/-! ## Types -/

/-- A subtype and the suffix after its last plus sign; a plus sign in front is no separator. -/
def cutSuffix (subtype : List Char) : List Char × Option (List Char) :=
  match Text.cutAt '+' subtype.reverse with
  | (_, none) => (subtype, none)
  | (_, some []) => (subtype, none)
  | (suffix, some before) => (before.reverse, some suffix.reverse)

/-- Does this content type announce a JSON text? -/
def isJson (contentType : String) : Bool :=
  let s := contentType.toList.map Char.toLower
  let (essence, parameters) := Text.cutAt ';' s
  let (type, subtype) := Text.cutAt '/' essence
  match subtype with
  | none => false
  | some subtype =>
    let (name, suffix) := cutSuffix subtype
    s.all isVisible && subtype.all isTokenChar && type = "application".toList &&
      (name = "json".toList || suffix = some "json".toList) &&
      areParameters (parameters.getD [])

end OfferService.Http.MediaType
