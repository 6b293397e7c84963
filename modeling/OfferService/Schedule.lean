/-
  OfferService.Schedule

  Tasks that share one state and one clock. A task moves until it has to wait for another task or
  for time; tasks that become able to move queue up, first come, first served. The clock stands
  still while anything can move, and then goes on to the next alarm.
-/
namespace OfferService

/-- Tasks `τ` over a state `σ`. -/
structure System (σ τ : Type) where
  /-- The tasks there are, in the order in which they queue up if one move makes several able. -/
  tasks : σ → List τ
  /-- One move of a task at a moment; nothing if the task has to wait. -/
  move : (now : Nat) → τ → σ → Option σ
  /-- The moment that a task waits for. -/
  alarm : σ → τ → Option Nat

/-- A system that runs. -/
structure Run (σ τ : Type) where
  state : σ
  now : Nat := 0
  /-- The tasks that can move, in the order in which they will. -/
  ready : List τ := []
  /-- The alarms that are set, the one set first in front. -/
  alarms : List (τ × Nat) := []

namespace Run

variable {σ τ : Type} [BEq τ]

/-- A bound on the moves between two moments. -/
def moveLimit : Nat := Nat.pow 2 62

/-! ## Moves -/

/-- Queues up the tasks that have become able, and sets and drops alarms. -/
def refresh (sys : System σ τ) (r : Run σ τ) : Run σ τ :=
  let tasks := sys.tasks r.state
  let able := tasks.filter fun t => !r.ready.contains t && (sys.move r.now t r.state).isSome
  let kept := r.alarms.filter fun a => sys.alarm r.state a.1 == some a.2
  let new := tasks.filterMap fun t =>
    (sys.alarm r.state t).bind fun at_ =>
      if kept.any fun a => a.1 == t then none else some (t, at_)
  { r with ready := r.ready ++ able, alarms := kept ++ new }

/-- Changes the state from outside. -/
def update (sys : System σ τ) (r : Run σ τ) (f : σ → σ) : Run σ τ :=
  ({ r with state := f r.state }).refresh sys

/-- Lets the first task that is ready move once, or leave the queue if it has to wait. -/
def step (sys : System σ τ) (r : Run σ τ) : Option (Run σ τ) :=
  match r.ready with
  | [] => none
  | t :: rest =>
    match sys.move r.now t r.state with
    | some s => some (({ r with state := s }).refresh sys)
    | none => some { r with ready := rest }

/-- Lets all tasks move until they wait. -/
def settle (sys : System σ τ) (r : Run σ τ) : Run σ τ := go moveLimit r
where
  go : Nat → Run σ τ → Run σ τ
    | 0, r => r
    | fuel + 1, r =>
      match r.step sys with
      | some r => go fuel r
      | none => r

/-! ## Time -/

/-- The alarms that are still to go off, in the order in which they will. -/
def upcoming (r : Run σ τ) : List (τ × Nat) :=
  (r.alarms.filter fun a => r.now < a.2).mergeSort fun a b => a.2 ≤ b.2

/-- Moves the clock to a moment; every alarm up to it goes off. -/
def clockTo (sys : System σ τ) (r : Run σ τ) (moment : Nat) : Run σ τ :=
  let due := (r.upcoming.filter fun a => a.2 ≤ moment).map (·.1)
  ({ r with now := max r.now moment, ready := r.ready ++ due }).refresh sys

/-- The next moment at which an alarm goes off. -/
def nextAlarm (r : Run σ τ) : Option Nat := r.upcoming.head?.map (·.2)

/-- Lets time pass up to a moment, with every alarm at its own time. -/
def sleepUntil (sys : System σ τ) (r : Run σ τ) (moment : Nat) : Run σ τ := go moveLimit r
where
  go : Nat → Run σ τ → Run σ τ
    | 0, r => r
    | fuel + 1, r =>
      let r := r.settle sys
      match r.nextAlarm with
      | some next =>
        if next ≤ moment then go fuel (r.clockTo sys next)
        else (r.clockTo sys moment).settle sys
      | none => (r.clockTo sys moment).settle sys

/-- Moves the clock on at once; alarms in between go off late. -/
def jump (sys : System σ τ) (r : Run σ τ) (span : Nat) : Run σ τ :=
  (r.clockTo sys (r.now + span)).settle sys

/-- Lets the tasks move, and time pass if they all wait, until a condition holds. -/
def settleUntil (sys : System σ τ) (p : σ → Bool) (r : Run σ τ) : Run σ τ := go moveLimit r
where
  go : Nat → Run σ τ → Run σ τ
    | 0, r => r
    | fuel + 1, r =>
      let r := r.settle sys
      if p r.state then r
      else
        match r.nextAlarm with
        | some next => go fuel (r.clockTo sys next)
        | none => r

/-- Like `settleUntil`, but gives up when the clock reaches a moment. -/
def settleUntilOr (sys : System σ τ) (p : σ → Bool) (moment : Nat) (r : Run σ τ) : Run σ τ :=
  go moveLimit r
where
  go : Nat → Run σ τ → Run σ τ
    | 0, r => r
    | fuel + 1, r =>
      let r := r.settle sys
      if p r.state then r
      else
        match r.nextAlarm with
        | some next =>
          if next < moment then go fuel (r.clockTo sys next) else r.clockTo sys moment
        | none => r.clockTo sys moment

end Run

end OfferService
