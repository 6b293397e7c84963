import OfferService.Api.Input
import OfferService.Api.Job

/-
  OfferService.Api.Handlers

  What is done for each kind of request, and what is answered in the end.
-/
namespace OfferService.Api

open OfferService.Http (Request Response)

/-! ## Views -/

/-- An offer as clients see it. -/
def offerView (o : Offer) : Json.Value :=
  .object
    [("id", .natural o.id.toNat), ("user_id", .natural o.userId.toNat),
      ("team_id", .natural o.teamId.toNat), ("grade", .natural o.grade.toNat)]

/-- A page's place as clients see it. -/
def pageView (i : PageInfo) : Json.Value :=
  .object
    [("has_previous_page", .boolean i.hasPrevious), ("has_next_page", .boolean i.hasNext),
      ("per_page", .natural i.perPage.toNat), ("page", .natural i.page.toNat),
      ("total_pages", .natural i.totalPages.toNat), ("total_items", .natural i.totalItems.toNat)]

/-- A number under a name. -/
def numbered (name : String) (n : Nat) : Json.Value := .object [(name, .natural n)]

/-- What a handler says about its work. -/
def remark (level : Log.Level) (text : String) : List Log.Entry := [⟨level, .handlers, text⟩]

/-! ## Writing -/

/-- Creates one offer. -/
def create (r : Request) : Job :=
  .given (offerFields r) fun fields =>
    .create (fields.toOffer 0) <| .stored fun id =>
      .announce .created id <|
        .count (·.onCreated 1) <|
          .log (remark .debug ("create_offer: created offer " ++ toString id.toNat)) <|
            .answer (.json 200 (numbered "id" id.toNat))

/-- Creates several offers, or none. -/
def createBatch (r : Request) : Job :=
  .given (offerList r) fun list =>
    .createAll (list.map (·.toOffer 0)) <| .stored fun count =>
      .count (·.onCreated list.length) <|
        .log (remark .debug ("multi_create_offer: created " ++ toString count ++ " offers")) <|
          .answer (.json 200 (numbered "count" count))

/-- Hands offers to the saver, one after another, until one is refused; `accepted` of `total` were
    taken before. -/
def saveEach (total : Nat) : (accepted : Nat) → List Offer → Job
  | _, [] => .answer (.json 202 (numbered "accepted" total))
  | accepted, o :: rest =>
    .save o fun
      | .ok () => saveEach total (accepted + 1) rest
      | .error e =>
        .log (remark .warn ("buffered_create_offer: " ++ toString accepted ++ " of " ++
          toString total ++ " offers buffered before rejection")) <|
          .refuse (.saver e)

/-- Hands several offers to the saver. Those that were taken before one is refused stay with it. -/
def createBuffered (r : Request) : Job :=
  .given (offerList r) fun list => saveEach list.length 0 (list.map (·.toOffer 0))

/-- Changes an offer. -/
def change (segment : String) (r : Request) : Job :=
  .given (offerChange segment r) fun o =>
    .update o <| .stored fun _ =>
      .announce .updated o.id <| .count (·.onUpdated) <| .answer { status := 204 }

/-- Removes an offer. -/
def remove (segment : String) : Job :=
  .given (offerId segment) fun id =>
    .remove id <| .stored fun _ =>
      .announce .removed id <| .count (·.onRemoved) <| .answer { status := 204 }

/-! ## Reading -/

/-- Shows an offer. -/
def describe (segment : String) : Job :=
  .given (offerId segment) fun id =>
    .describe id <| .stored fun o => .answer (.json 200 (.object [("offer", offerView o)]))

/-- Shows a window on the offers. -/
def list (r : Request) : Job :=
  .given (window r) fun w =>
    .list w <| .stored fun (os, info) =>
      .answer (.json 200
        (.object [("offers", .array (os.map offerView)), ("pagination", pageView info)]))

end OfferService.Api
