/-
  OfferService.Station

  Where a task stands that serves a mailbox: it serves until it is told to stop, then takes what
  came before that, and exits.
-/
namespace OfferService

/-- Where a task stands between two pieces of work. -/
inductive Station where
  | serving
  /-- It takes what came before the end. -/
  | draining
  | exited
  deriving DecidableEq, Repr

end OfferService
