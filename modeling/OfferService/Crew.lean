/-
  OfferService.Crew

  Who is at work on something shared: tasks that were started and what they were started for, and
  the results of those that have finished. The thing is let go of when its holder has released it
  and no task has it in hands.
-/
namespace OfferService

/-- Whoever makes a call. -/
abbrev Caller := Nat

/-- What comes of a call can be compared with what comes of another. -/
instance decidableEqExcept {ε ρ : Type} [DecidableEq ε] [DecidableEq ρ] :
    DecidableEq (Except ε ρ)
  | .ok a, .ok b => decidable_of_iff (a = b) ⟨congrArg _, Except.ok.inj⟩
  | .error x, .error y => decidable_of_iff (x = y) ⟨congrArg _, Except.error.inj⟩
  | .ok _, .error _ => isFalse nofun
  | .error _, .ok _ => isFalse nofun

/-- Tasks with errands `ε` and results `ρ`. -/
structure Crew (ε ρ : Type) where
  /-- Tasks that have not made their first move. -/
  starting : List (Caller × ε) := []
  /-- Tasks that have, and have not finished. -/
  running : List Caller := []
  /-- Tasks whose results nobody has asked for, in the order in which they were started. -/
  unjoined : List Caller := []
  results : List (Caller × ρ) := []
  next : Caller := 0
  /-- The holder has let go. -/
  released : Bool := false
  /-- Everybody has. -/
  dropped : Bool := false
  deriving Repr

namespace Crew

variable {ε ρ : Type}

/-- The crew after it named a caller that nobody was before: `next`. -/
def named (c : Crew ε ρ) : Crew ε ρ := { c with next := c.next + 1 }

/-- Starts a task. -/
def spawn (c : Crew ε ρ) (e : ε) : Crew ε ρ :=
  { c with
    starting := c.starting ++ [(c.next, e)]
    unjoined := c.unjoined ++ [c.next]
    next := c.next + 1 }

/-- A task makes its first move. -/
def begin (c : Crew ε ρ) (k : Caller) : Crew ε ρ :=
  { c with starting := c.starting.filter fun p => p.1 ≠ k, running := c.running ++ [k] }

/-- A call has returned. -/
def finish (c : Crew ε ρ) (k : Caller) (r : ρ) : Crew ε ρ :=
  { c with results := c.results ++ [(k, r)], running := c.running.erase k }

/-- The result of a call. -/
def result? (c : Crew ε ρ) (k : Caller) : Option ρ := c.results.lookup k

/-- Which of the tasks have finished. -/
def finished (c : Crew ε ρ) : List Bool := c.unjoined.map fun k => (c.result? k).isSome

/-- Have all of them? -/
def isDone (c : Crew ε ρ) : Bool := c.finished.all id

/-- The results of the tasks. -/
def joined (c : Crew ε ρ) : List ρ := c.unjoined.filterMap c.result?

/-- Is it time to drop the thing? -/
def isDroppable (c : Crew ε ρ) : Bool :=
  c.released && !c.dropped && c.starting.isEmpty && c.running.isEmpty

end Crew

end OfferService
