/-
  OfferService.Storage.Error

  What can go wrong with stored offers, and its wording.
-/
namespace OfferService.Storage

/-- A failure of the database itself. -/
inductive SqlError where
  | poolClosed
  /-- The database was asked for in a way that is not understood. -/
  | configuration (reason : String)
  /-- An error of the engine, with its number and text. -/
  | engine (code : Nat) (text : String)
  deriving DecidableEq, Repr

namespace SqlError

/-- The failure in words. -/
def message : SqlError → String
  | .poolClosed => "attempted to acquire a connection on a closed pool"
  | .configuration reason => "error with configuration: " ++ reason
  | .engine code text =>
    "error returned from database: (code: " ++ toString code ++ ") " ++ text

/-- No further id can be issued. -/
def full : SqlError := .engine 13 "database or disk is full"

/-- A row with that id exists. -/
def idTaken : SqlError := .engine 1555 "UNIQUE constraint failed: offers.id"

/-- The database was never prepared. -/
def noTable : SqlError := .engine 1 "no such table: offers"

/-- The file is there and cannot be used. -/
def cannotOpen : SqlError := .engine 14 "unable to open database file"

/-- The database was opened to be read only. -/
def readOnly : SqlError := .engine 8 "attempt to write a readonly database"

/-- The file holds something else. -/
def notADatabase : SqlError := .engine 26 "file is not a database"

end SqlError

/-- Why an operation on stored offers fails. -/
inductive Error where
  | fileCreation (reason : String)
  | sql (cause : SqlError)
  | migration (cause : SqlError)
  | offerNotFound (id : UInt64)
  | valueOutOfRange (value : UInt64)
  | zeroPageSize
  deriving DecidableEq, Repr

/-- The error in words. -/
def Error.message : Error → String
  | .fileCreation reason => "Database file creation error: " ++ reason
  | .sql cause => "SQL error: " ++ cause.message
  | .migration cause => "Migration error: while executing migrations: " ++ cause.message
  | .offerNotFound id => "Offer " ++ toString id.toNat ++ " not found"
  | .valueOutOfRange value => "Value " ++ toString value.toNat ++ " is out of range for storage"
  | .zeroPageSize => "Page size must be greater than zero"

end OfferService.Storage
