/-
  OfferService.Mailbox

  A queue with a bounded number of places between many senders and one receiver. Who finds no place
  waits in line; a place that is left goes to the first in line, who keeps it until it has put its
  item there.
-/
namespace OfferService

/-- A mailbox of items `α` from senders `κ`. -/
structure Mailbox (κ α : Type) where
  /-- Places that nobody has. -/
  room : Nat
  /-- Senders in line, the first one in front. -/
  waiting : List κ := []
  /-- Senders that have a place and have not put an item there. -/
  granted : List κ := []
  items : List (κ × α) := []
  isClosed : Bool := false
  deriving DecidableEq, Repr

namespace Mailbox

variable {κ α : Type}

/-- An empty mailbox with so many places. -/
def empty (capacity : Nat) : Mailbox κ α := { room := capacity }

/-! ## Senders -/

/-- A sender asks for a place. -/
def request (m : Mailbox κ α) (k : κ) : Mailbox κ α :=
  if m.isClosed then m
  else if 0 < m.room then { m with room := m.room - 1, granted := m.granted ++ [k] }
  else { m with waiting := m.waiting ++ [k] }

/-- A place is left: it goes to the first in line. -/
def release (m : Mailbox κ α) : Mailbox κ α :=
  match m.waiting with
  | [] => { m with room := m.room + 1 }
  | k :: rest => { m with waiting := rest, granted := m.granted ++ [k] }

variable [DecidableEq κ]

/-- May this sender put its item? -/
def admits (m : Mailbox κ α) (k : κ) : Bool := !m.isClosed && m.granted.contains k

/-- A sender puts an item at its place. -/
def enter (m : Mailbox κ α) (k : κ) (a : α) : Mailbox κ α :=
  if m.admits k then { m with granted := m.granted.erase k, items := m.items ++ [(k, a)] } else m

/-- A sender gives up, and leaves its place to the next in line if it has one. -/
def withdraw (m : Mailbox κ α) (k : κ) : Mailbox κ α :=
  if m.granted.contains k then ({ m with granted := m.granted.erase k }).release
  else { m with waiting := m.waiting.erase k }

/-! ## The receiver -/

/-- The first item, if there is one. -/
def take? (m : Mailbox κ α) : Option ((κ × α) × Mailbox κ α) :=
  match m.items with
  | [] => none
  | item :: rest => some (item, ({ m with items := rest }).release)

/-- Lets nobody in any more; items that are there stay. -/
def close (m : Mailbox κ α) : Mailbox κ α :=
  { m with isClosed := true, waiting := [], granted := [] }

end Mailbox

end OfferService
