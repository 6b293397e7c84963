import OfferService.Event.Calendar
import OfferService.Json.Printer

/-
  OfferService.Event.Basic

  Events that are published about offers.
-/
namespace OfferService

/-- What happened to an offer. -/
inductive EventKind where
  | created
  | updated
  | removed
  deriving DecidableEq, Repr

namespace EventKind

/-- The kind as a title. -/
def title : EventKind → String
  | .created => "Created"
  | .updated => "Updated"
  | .removed => "Removed"

/-- The kind as a message's tag. -/
def tag : EventKind → String
  | .created => "created"
  | .updated => "updated"
  | .removed => "removed"

/-- What was done, in words. -/
def operation (k : EventKind) : String := k.title ++ " offer"

end EventKind

/-- An event: what happened to which offer, and when. -/
structure Event where
  kind : EventKind
  id : UInt64
  moment : Moment := {}
  deriving DecidableEq, Repr

namespace Event

/-- The event as a JSON value. -/
def toJson (e : Event) : Json.Value :=
  .object
    [("type", .string e.kind.tag),
      ("body", .object
        [("id", .natural e.id.toNat), ("operation", .string e.kind.operation),
          ("timestamp", .string e.moment.render)])]

/-- The event as a JSON text. -/
def toText (e : Event) : String := e.toJson.render

end Event

end OfferService
