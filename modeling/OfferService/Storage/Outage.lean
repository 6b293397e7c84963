import OfferService.Outage
import OfferService.Storage.Error

/-
  OfferService.Storage.Outage

  Storage that fails on purpose, and the record of its calls.
-/
namespace OfferService

/-- How storage answers a call that nothing else is wrong with. -/
def Outage.storageAnswer (o : Outage) (call : Nat) : Except Storage.Error Unit :=
  if o.fails call then .error (.fileCreation ("injected failure " ++ toString call)) else .ok ()

namespace Storage

/-- A call that has ended. -/
structure CallRecord where
  number : Nat
  users : List UInt64
  succeeded : Bool
  /-- The moment it ended. -/
  moment : Nat
  deriving DecidableEq, Repr

end Storage

end OfferService
