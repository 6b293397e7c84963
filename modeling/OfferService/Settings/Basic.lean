import OfferService.Log.Line
import OfferService.Release
import OfferService.Saver.Pipeline

/-
  OfferService.Settings.Basic

  Everything about a service that its operator chooses.
-/
namespace OfferService

/-- The choices of an operator. -/
structure Settings where
  logLevel : Log.Level := .info
  logFormat : Log.Format := .plain
  /-- Where the offer interface listens. -/
  apiHost : String := "127.0.0.1"
  apiPort : Nat := 8080
  /-- Where those are answered who watch the service. -/
  statusHost : String := "127.0.0.1"
  statusPort : Nat := 8000
  /-- The file of the database. -/
  databasePath : String := "./offer_api.db"
  /-- The most offers that the saver holds. -/
  capacity : Nat := 1000
  /-- The most batches of a flush. -/
  groups : Nat := 4
  /-- The time between flushes, in milliseconds. -/
  interval : Nat := 1000
  /-- The most messages that wait to be published. -/
  queue : Nat := 256
  topic : String := "offer.events"
  release : Release := {}
  deriving DecidableEq, Repr

namespace Settings

/-- A host and the number behind it. -/
def address (host : String) (number : Nat) : String := host ++ ":" ++ toString number

/-- The address of the offer interface. -/
def apiAddress (s : Settings) : String := address s.apiHost s.apiPort

/-- The address for those who watch. -/
def statusAddress (s : Settings) : String := address s.statusHost s.statusPort

/-- The settings of the saver. -/
def saver (s : Settings) : Saver.Settings := ⟨s.capacity, s.groups, .millis s.interval⟩

end Settings

end OfferService
