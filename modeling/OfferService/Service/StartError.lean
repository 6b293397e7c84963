import OfferService.Saver.Basic
import OfferService.Storage.Error

/-
  OfferService.Service.StartError

  Why a service does not come up. An error is told with all its causes, one after another; some
  errors name their cause in their own wording too, and then it is told twice.
-/
namespace OfferService

/-! ## Causes -/

/-- What lies behind a failure of the database. -/
def Storage.SqlError.causes : Storage.SqlError → List String
  | .poolClosed => []
  | .configuration reason => [reason]
  | .engine code text => ["(code: " ++ toString code ++ ") " ++ text]

/-- What lies behind an error of storage. -/
def Storage.Error.causes : Storage.Error → List String
  | .sql e => e.message :: e.causes
  | .migration e => ("while executing migrations: " ++ e.message) :: e.message :: e.causes
  | _ => []

/-- What lies behind an error of a saver. -/
def SaverError.causes : SaverError → List String
  | .ticker e => [e.message]
  | _ => []

namespace Service

/-! ## Errors -/

/-- Why a service does not come up. -/
inductive StartError where
  /-- The log was set up before. -/
  | loggerTaken
  | database (cause : Storage.Error)
  | migrations (cause : Storage.Error)
  | saver (cause : SaverError)
  /-- A server cannot listen at its address. -/
  | bind (name : String) (address : String) (reason : String)
  deriving DecidableEq, Repr

namespace StartError

/-- The error itself, without its causes. -/
def message : StartError → String
  | .loggerTaken =>
    "Logger initialization error: attempted to set a logger after the logging system " ++
      "was already initialized"
  | .database _ => "Failed to initialize database pool"
  | .migrations _ => "Failed to run database migrations"
  | .saver _ => "Failed to start batch pipeline"
  | .bind name address reason =>
    "Failed to bind " ++ name ++ " listener to " ++ address ++ ": " ++ reason

/-- What lies behind the error. -/
def causes : StartError → List String
  | .loggerTaken => []
  | .database e => e.message :: e.causes
  | .migrations e => e.message :: e.causes
  | .saver e => e.message :: e.causes
  | .bind _ _ reason => [reason]

/-- The error with all its causes. -/
def chain (e : StartError) : String := ": ".intercalate (e.message :: e.causes)

end StartError

end Service

end OfferService
