import OfferService.Json.Tagged
import OfferService.Offer.Json

/-
  OfferService.Command

  Commands that arrive as messages: what to do with which offers.
-/
namespace OfferService

/-- A change to the offers. -/
inductive Command where
  | create (offer : Offer)
  | multiCreate (offers : List Offer)
  | update (offer : Offer)
  | delete (id : UInt64)
  deriving DecidableEq, Repr

namespace Command

open OfferService.Json

/-- The name of the command in a message. -/
def name : Command → String
  | .create _ => "create"
  | .multiCreate _ => "multi_create"
  | .update _ => "update"
  | .delete _ => "delete"

/-! ## Writing -/

/-- The content of the command. -/
def content : Command → Json.Value
  | .create o => o.toJson
  | .multiCreate os => .array (os.map Offer.toJson)
  | .update o => o.toJson
  | .delete id => .object [("id", .natural id.toNat)]

/-- The command with its tag first. -/
def toJson (c : Command) : Json.Value := .object [("type", .string c.name), ("value", c.content)]

/-- The command with its content first. -/
def toJsonContentFirst (c : Command) : Json.Value :=
  .object [("value", c.content), ("type", .string c.name)]

/-! ## Reading -/

/-- How the content of a removal is written: as an object only. -/
def deleteShape : Shape (Option UInt64) UInt64 where
  expected := .variantOf "Command" "Delete"
  asArray := none
  members := [.field "id" id (fun _ v => some v) fun _ => word64]
  blank := none
  build := required "id"

/-- How a command is written. -/
def choice : Choice Command where
  name := "Command"
  tagKey := "type"
  contentKey := "value"
  variants :=
    [("create", fun origin => (Offer.reader origin).map .create),
      ("multi_create", fun origin => (sequence (Offer.reader origin)).map .multiCreate),
      ("update", fun origin => (Offer.reader origin).map .update),
      ("delete", fun origin => (deleteShape.read origin).map .delete)]

/-- Reads a text that is a command. -/
def ofText (text : List UInt8) : Except Fault Command := Json.read choice.read text

end Command

end OfferService
