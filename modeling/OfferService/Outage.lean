/-
  OfferService.Outage

  Something that fails on purpose: which of its calls fail, and how long each takes.
-/
namespace OfferService

/-- Which calls fail, counted from one, and how long each takes in milliseconds. -/
structure Outage where
  failOn : List Nat := []
  always : Bool := false
  delay : Nat := 0
  deriving DecidableEq, Repr, Inhabited

/-- Does this call fail? -/
def Outage.fails (o : Outage) (call : Nat) : Bool := o.always || o.failOn.contains call

end OfferService
