import OfferService.Http.Basic
import OfferService.Log
import OfferService.Saver.Basic
import OfferService.Storage.Error

/-
  OfferService.Api.Error

  Why a request to the offer interface is refused, and how that is answered. Requests at fault get a
  status below 500; 503 says that nothing is buffered now, 500 that something is wrong here.
-/
namespace OfferService.Api

/-- Why a request is refused. -/
inductive Error where
  /-- It does not say anything that could be carried out. -/
  | invalid (reason : String)
  | storage (cause : Storage.Error)
  | saver (cause : SaverError)
  deriving DecidableEq, Repr

namespace Error

/-- The error in words. -/
def message : Error → String
  | .invalid reason => reason
  | .storage cause => cause.message
  | .saver cause => cause.message

/-- The status of the answer. -/
def status : Error → Nat
  | .invalid _ => 400
  | .storage (.offerNotFound _) => 404
  | .storage .zeroPageSize => 400
  | .storage (.valueOutOfRange _) => 400
  | .storage _ => 500
  | .saver (.capacityReached _) => 429
  | .saver .closed => 503
  | .saver .notInitialized => 503
  | .saver _ => 500

/-- The body of the answer. -/
def body (e : Error) : Json.Value := .object [("error", .string e.message)]

/-- The answer. -/
def response (e : Error) : Http.Response := .json e.status e.body

/-- What is logged about it. -/
def log (e : Error) : List Log.Entry :=
  if 500 ≤ e.status then [⟨.error, .apiErrors, "Request failed: " ++ e.message⟩]
  else [⟨.debug, .apiErrors, "Request rejected: " ++ e.message⟩]

end Error

end OfferService.Api
