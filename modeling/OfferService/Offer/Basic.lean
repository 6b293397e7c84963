/-
  OfferService.Offer.Basic

  An offer made to a user of a team. Until it is stored its id is zero.
-/
namespace OfferService

/-- An offer. -/
structure Offer where
  id : UInt64 := 0
  userId : UInt64 := 0
  teamId : UInt64 := 0
  grade : UInt64 := 0
  isDeleted : Bool := false
  deriving DecidableEq, Repr, Inhabited

namespace Offer

/-- An offer that is not stored yet. -/
def fresh (userId teamId grade : UInt64) : Offer := { userId, teamId, grade }

/-- The offer in one line. -/
def describe (o : Offer) : String :=
  "Id: " ++ toString o.id.toNat ++ ", UserId: " ++ toString o.userId.toNat ++
    ", Grade: " ++ toString o.grade.toNat ++ ", TeamId: " ++ toString o.teamId.toNat

end Offer

end OfferService
