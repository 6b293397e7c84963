/-
  OfferService.Batch.Split

  Cutting a list into at most so many consecutive batches of one length, the last of which may be
  shorter.
-/
namespace OfferService.Batch

/-- Why a list cannot be cut. -/
inductive SplitError where
  | zeroGroupCount
  deriving DecidableEq, Repr

/-- The error in words. -/
def SplitError.message : SplitError → String
  | .zeroGroupCount => "Invalid argument: group count must be greater than zero"

/-- The length of the batches when `length` items go into at most `groups` of them. -/
def step (length groups : Nat) : Nat :=
  let used := min groups length
  (length + used - 1) / used

/-- Consecutive pieces of `size` items, the last of which may be shorter. -/
def chunks (size : Nat) (items : List α) : List (List α) :=
  match items with
  | [] => []
  | first :: rest =>
    (first :: rest.take (size - 1)) :: chunks size (rest.drop (size - 1))
termination_by items.length
decreasing_by simp only [List.length_drop, List.length_cons]; omega

/-- The batches of a list. -/
def split (items : List α) (groups : Nat) : Except SplitError (List (List α)) :=
  if groups = 0 then .error .zeroGroupCount
  else .ok (chunks (step items.length groups) items)

end OfferService.Batch
