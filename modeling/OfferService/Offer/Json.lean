import OfferService.Json.Printer
import OfferService.Json.Record
import OfferService.Offer.Basic

/-
  OfferService.Offer.Json

  Offers as JSON records. The mark of a removed offer may be left out when it is read.
-/
namespace OfferService.Offer

open OfferService.Json

/-! ## Writing -/

/-- The offer as a JSON value. -/
def toJson (o : Offer) : Json.Value :=
  .object
    [("id", .natural o.id.toNat), ("user_id", .natural o.userId.toNat),
      ("team_id", .natural o.teamId.toNat), ("grade", .natural o.grade.toNat),
      ("is_deleted", .boolean o.isDeleted)]

/-- The offer as a JSON text. -/
def toText (o : Offer) : String := o.toJson.render

/-! ## Reading -/

/-- The members of an offer that were read so far. -/
structure Draft where
  id : Option UInt64 := none
  userId : Option UInt64 := none
  teamId : Option UInt64 := none
  grade : Option UInt64 := none
  isDeleted : Option Bool := none
  deriving DecidableEq, Repr

/-- The offer of a draft, unless a member is missing. -/
def Draft.build (d : Draft) : Except String Offer := do
  let id ← required "id" d.id
  let userId ← required "user_id" d.userId
  let teamId ← required "team_id" d.teamId
  let grade ← required "grade" d.grade
  .ok { id, userId, teamId, grade, isDeleted := d.isDeleted.getD false }

/-- How an offer is written. -/
def shape : Shape Draft Offer where
  expected := .record "Offer"
  asArray := some (.recordOf "Offer" 5)
  members :=
    [.field "id" (·.id) (fun d v => { d with id := v }) fun _ => word64,
      .field "user_id" (·.userId) (fun d v => { d with userId := v }) fun _ => word64,
      .field "team_id" (·.teamId) (fun d v => { d with teamId := v }) fun _ => word64,
      .field "grade" (·.grade) (fun d v => { d with grade := v }) fun _ => word64,
      .field "is_deleted" (·.isDeleted) (fun d v => { d with isDeleted := v }) fun _ => boolean]
  blank := {}
  build := Draft.build

/-- Reads an offer. -/
def reader (origin : Origin) : Reader Offer := shape.read origin

/-- Reads a text that is an offer. -/
def ofText (text : List UInt8) : Except Fault Offer := Json.read (reader .text) text

end OfferService.Offer
