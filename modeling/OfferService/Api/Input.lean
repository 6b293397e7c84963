import OfferService.Api.Violation
import OfferService.Http.Basic
import OfferService.Http.MediaType
import OfferService.Json.Record
import OfferService.Offer.Basic
import OfferService.Page

/-
  OfferService.Api.Input

  What requests say: the fields of an offer, lists of them, the id in a path, and the window in a
  query. Reading and checking are apart, since a request to change an offer is read as a whole
  before it is checked.
-/
namespace OfferService.Api

open OfferService.Json

/-! ## Fields of an offer -/

/-- What a client says about an offer. -/
structure OfferFields where
  userId : UInt64
  teamId : UInt64
  grade : UInt64
  deriving DecidableEq, Repr

namespace OfferFields

/-- The offer of an id with these fields. -/
def toOffer (f : OfferFields) (id : UInt64) : Offer :=
  { Offer.fresh f.userId f.teamId f.grade with id }

/-- The fields that were read so far. -/
structure Draft where
  userId : Option UInt64 := none
  teamId : Option UInt64 := none
  grade : Option UInt64 := none
  deriving DecidableEq, Repr

/-- The fields of a draft, unless one is missing. -/
def Draft.build (d : Draft) : Except String OfferFields := do
  let userId ← required "user_id" d.userId
  let teamId ← required "team_id" d.teamId
  let grade ← required "grade" d.grade
  .ok { userId, teamId, grade }

/-- How the fields are written. -/
def shape : Shape Draft OfferFields where
  expected := .record "OfferInput"
  asArray := some (.recordOf "OfferInput" 3)
  members :=
    [.field "user_id" (·.userId) (fun d v => { d with userId := v }) fun _ => word64,
      .field "team_id" (·.teamId) (fun d v => { d with teamId := v }) fun _ => word64,
      .field "grade" (·.grade) (fun d v => { d with grade := v }) fun _ => word64]
  blank := {}
  build := Draft.build

/-- Checks that the offer has an owner and a team. -/
def check (f : OfferFields) : Except FieldFault Unit :=
  if f.userId = 0 then .error .zeroUser
  else if f.teamId = 0 then .error .zeroTeam
  else .ok ()

/-- How a list of fields is written. -/
def listShape : Shape (Option (List OfferFields)) (List OfferFields) where
  expected := .record "MultiCreateRequest"
  asArray := some (.recordOf "MultiCreateRequest" 1)
  members := [.field "offers" id (fun _ fs => some fs) fun origin => sequence (shape.read origin)]
  blank := none
  build := required "offers"

/-- Checks the fields of offers, of which the first has number `i`. -/
def checkEach : (i : Nat) → List OfferFields → Except Violation Unit
  | _, [] => .ok ()
  | i, f :: rest =>
    match f.check with
    | .error fault => .error (.fieldOf i fault)
    | .ok () => checkEach (i + 1) rest

/-- Checks a list of fields: there are some, and not too many, and all are in order. -/
def checkList (fs : List OfferFields) : Except Violation Unit :=
  if fs.isEmpty then .error .noOffers
  else if maxBatch < fs.length then .error (.tooManyOffers fs.length)
  else checkEach 0 fs

end OfferFields

/-! ## Bodies -/

/-- Reads the body of a request. What follows the value in the body is not looked at. -/
def readBody (reader : Reader α) (r : Http.Request) : Except Violation α :=
  if !((r.header? "content-type").any Http.MediaType.isJson) then .error .contentType
  else if maxBody < r.body.length then .error .bodyTooLong
  else
    match readPrefix reader r.body with
    | .ok a => .ok a
    | .error (.broken _) => .error .bodyBroken
    | .error (.unfit path cause) => .error (.bodyUnfit path cause)

/-- Reads the fields of one offer. -/
def readFields (r : Http.Request) : Except Violation OfferFields :=
  readBody (OfferFields.shape.read .text) r

/-- Reads the fields of one offer and checks them. -/
def offerFields (r : Http.Request) : Except Violation OfferFields := do
  let fields ← readFields r
  fields.check.mapError .field
  .ok fields

/-- Reads the fields of several offers and checks them. -/
def offerList (r : Http.Request) : Except Violation (List OfferFields) := do
  let fields ← readBody (OfferFields.listShape.read .text) r
  OfferFields.checkList fields
  .ok fields

/-! ## Ids in paths -/

/-- Reads an id as it stands in a path. -/
def readId (segment : String) : Except Violation UInt64 :=
  match Text.Utf8.decode (Text.percentDecode (Text.Utf8.encode segment)) with
  | .error _ => .error .idNotText
  | .ok cs =>
    match Text.readNatural Text.maxNatural64 cs with
    | .ok n => .ok (UInt64.ofNat n)
    | .error _ => .error (.idNotNumber (String.ofList cs))

/-- Checks that an id can belong to an offer. -/
def checkId (id : UInt64) : Except Violation Unit :=
  if id = 0 then .error .zeroId else .ok ()

/-- Reads an id and checks it. -/
def offerId (segment : String) : Except Violation UInt64 := do
  let id ← readId segment
  checkId id
  .ok id

/-- Reads the id and the new fields of an offer, and checks them. -/
def offerChange (segment : String) (r : Http.Request) : Except Violation Offer := do
  let id ← readId segment
  let fields ← readFields r
  checkId id
  fields.check.mapError .field
  .ok (fields.toOffer id)

/-! ## Windows in queries -/

/-- Reads one name and its value; other names are passed over. -/
def readPair (d : Window.Draft) (pair : String × String) : Except QueryFault Window.Draft :=
  let (name, value) := pair
  if name = "take" then
    if d.take.isSome then .error (.duplicate name)
    else
      match Text.readNatural Text.maxNatural32 value.toList with
      | .ok n => .ok { d with take := UInt32.ofNat n }
      | .error fault => .error (.number fault)
  else if name = "skip" then
    if d.skip.isSome then .error (.duplicate name)
    else
      match Text.readNatural Text.maxNatural64 value.toList with
      | .ok n => .ok { d with skip := UInt64.ofNat n }
      | .error fault => .error (.number fault)
  else .ok d

/-- The window that a request asks for. -/
def window (r : Http.Request) : Except Violation Window := do
  let draft ← (r.target.pairs.foldlM readPair {}).mapError .query
  match draft.take with
  | some take =>
    if 1 ≤ take.toNat ∧ take.toNat ≤ maxPage then .ok { take, skip := draft.skip.getD 0 }
    else .error .takeOutOfRange
  | none => .error .takeOutOfRange

end OfferService.Api
