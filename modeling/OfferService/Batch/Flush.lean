import OfferService.Batch.Split
import OfferService.Log
import OfferService.Storage.Error

/-
  OfferService.Batch.Flush

  Handing a list of offers to storage in batches. Batches go one after another; the first that is
  refused ends the flush, and it and all later ones remain. A flush is a machine that waits for
  the answer to one batch at a time, so that whoever runs it may take as long as it likes; `run`
  puts a whole flush together.
-/
namespace OfferService.Batch

/-- Why a flush left offers behind. -/
inductive FlushError where
  | split (cause : SplitError)
  | persist (batchLength : Nat) (cause : Storage.Error)
  deriving DecidableEq, Repr

/-- The error in words. -/
def FlushError.message : FlushError → String
  | .split cause => "Failed to split offers into batches: " ++ cause.message
  | .persist n cause =>
    "Failed to persist batch of " ++ toString n ++ " offers: " ++ cause.message

/-- How a flush ended. -/
structure Outcome (α : Type) where
  /-- The number of items there were. -/
  total : Nat
  /-- The items that were not stored. -/
  remaining : List α
  error : Option FlushError
  deriving DecidableEq, Repr

namespace Outcome

/-- The number of items that were stored. -/
def stored (o : Outcome α) : Nat := o.total - o.remaining.length

/-- What an observer is told: how many items were stored and how many were left. A flush of nothing
    is told only if it failed. -/
def report (o : Outcome α) : Option (Nat × Nat) :=
  if o.total = 0 ∧ o.error.isNone then none else some (o.stored, o.remaining.length)

/-- What is logged at the end. -/
def log (o : Outcome α) : List Log.Entry :=
  match o.error with
  | some (.persist _ cause) =>
    [⟨.warn, .flusher, "Flush stopped after " ++ toString o.stored ++ " of " ++ toString o.total ++
      " offers: " ++ cause.message⟩]
  | some (.split _) => []
  | none =>
    if o.total = 0 then []
    else [⟨.debug, .flusher, "Successfully flushed " ++ toString o.total ++ " offers"⟩]

end Outcome

/-! ## A flush under way -/

/-- A flush that waits for the answer to a batch. -/
structure Flush (α : Type) where
  total : Nat
  /-- The batches that were stored, last one first. -/
  stored : List (List α) := []
  /-- The batch that storage was given. -/
  current : List α
  /-- The batches after it. -/
  later : List (List α)
  deriving DecidableEq, Repr

/-- Where a flush stands. -/
inductive Progress (α : Type) where
  | waiting (f : Flush α)
  | ended (o : Outcome α)
  deriving DecidableEq, Repr

namespace Flush

/-- The items that are not stored yet. -/
def unstored (f : Flush α) : List α := f.current ++ f.later.flatten

/-- Begins a flush of `items` in at most `groups` batches. -/
def start (items : List α) (groups : Nat) : Progress α :=
  match split items groups with
  | .error e => .ended { total := items.length, remaining := items, error := some (.split e) }
  | .ok [] => .ended { total := 0, remaining := [], error := none }
  | .ok (first :: later) => .waiting { total := items.length, current := first, later }

/-- The answer to the batch that storage was given. -/
def answer (f : Flush α) : Except Storage.Error Unit → Progress α
  | .error e =>
    .ended { total := f.total, remaining := f.unstored,
             error := some (.persist f.current.length e) }
  | .ok () =>
    match f.later with
    | [] => .ended { total := f.total, remaining := [], error := none }
    | next :: later =>
      .waiting { f with stored := f.current :: f.stored, current := next, later }

end Flush

/-! ## A whole flush -/

/-- A batch that was given to storage, with the number of the call and the answer. -/
structure Call (α : Type) where
  number : Nat
  batch : List α
  answer : Except Storage.Error Unit

/-- The calls of a flush, and how it ended. -/
structure Transcript (α : Type) where
  calls : List (Call α)
  outcome : Outcome α

/-- A batch that is stored leaves fewer to come. -/
theorem Flush.later_length_lt {f g : Flush α} {r : Except Storage.Error Unit}
    (h : f.answer r = .waiting g) : g.later.length < f.later.length := by
  unfold Flush.answer at h
  split at h
  · cases h
  · split at h
    · cases h
    · rename_i hl
      cases h
      simp [hl]

/-- Gives the batches that are left to storage, which answers call number `n` with `answers n`. -/
def Flush.finish (answers : Nat → Except Storage.Error Unit) (n : Nat) (f : Flush α) :
    Transcript α :=
  let call : Call α := ⟨n, f.current, answers n⟩
  match h : f.answer (answers n) with
  | .ended o => { calls := [call], outcome := o }
  | .waiting g =>
    let rest := Flush.finish answers (n + 1) g
    { rest with calls := call :: rest.calls }
termination_by f.later.length
decreasing_by exact Flush.later_length_lt h

/-- A whole flush; its first call has number `n`. -/
def flush (answers : Nat → Except Storage.Error Unit) (n : Nat) (items : List α) (groups : Nat) :
    Transcript α :=
  match Flush.start items groups with
  | .ended o => { calls := [], outcome := o }
  | .waiting f => f.finish answers n

end OfferService.Batch
