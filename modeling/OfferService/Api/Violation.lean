import OfferService.Json.Fault
import OfferService.Text.Number

/-
  OfferService.Api.Violation

  What can be wrong with a request before anything is done about it, and the limits that apply.
-/
namespace OfferService.Api

/-! ## Limits -/

/-- The most offers that are shown at once. -/
def maxPage : Nat := 10000

/-- The most offers that are created at once. -/
def maxBatch : Nat := 10000

/-- The most bytes of a body that are read. -/
def maxBody : Nat := 2097152

/-! ## Violations -/

/-- What is wrong with a query. -/
inductive QueryFault where
  | number (fault : Text.NumberFault)
  | duplicate (name : String)
  deriving DecidableEq, Repr

/-- The fault in words. -/
def QueryFault.message : QueryFault → String
  | .number fault => fault.message
  | .duplicate name => (Json.Cause.duplicateField name).message

/-- What is wrong with the fields of an offer. -/
inductive FieldFault where
  | zeroUser
  | zeroTeam
  deriving DecidableEq, Repr

/-- The fault in words. -/
def FieldFault.message : FieldFault → String
  | .zeroUser => "user_id must be greater than zero"
  | .zeroTeam => "team_id must be greater than zero"

/-- What is wrong with a request. -/
inductive Violation where
  /-- The body is not announced as JSON. -/
  | contentType
  | bodyTooLong
  | bodyBroken
  | bodyUnfit (path : Json.Path) (cause : Json.Cause)
  /-- The id in the path is no text. -/
  | idNotText
  | idNotNumber (text : String)
  | zeroId
  | query (fault : QueryFault)
  | takeOutOfRange
  | field (fault : FieldFault)
  | fieldOf (index : Nat) (fault : FieldFault)
  | noOffers
  | tooManyOffers (count : Nat)
  deriving DecidableEq, Repr

/-- The violation in words. -/
def Violation.message : Violation → String
  | .contentType => "Expected request with `Content-Type: application/json`"
  | .bodyTooLong => "Failed to buffer the request body: length limit exceeded"
  | .bodyBroken => "Failed to parse the request body as JSON"
  | .bodyUnfit path cause =>
    "Failed to deserialize the JSON body into the target type: " ++
      (if path.isEmpty then "" else path.render ++ ": ") ++ cause.message
  | .idNotText => "Invalid URL: Invalid UTF-8 in `id`"
  | .idNotNumber text => "Invalid URL: Cannot parse `" ++ Text.quoted text ++ "` to a `u64`"
  | .zeroId => "offer id must be greater than zero"
  | .query fault => "Failed to deserialize query string: " ++ fault.message
  | .takeOutOfRange => "take must be between 1 and " ++ toString maxPage
  | .field fault => fault.message
  | .fieldOf index fault => "offers[" ++ toString index ++ "]: " ++ fault.message
  | .noOffers => "offers must not be empty"
  | .tooManyOffers count =>
    "at most " ++ toString maxBatch ++ " offers can be created at once, got " ++ toString count

end OfferService.Api
