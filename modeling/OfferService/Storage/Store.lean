import OfferService.Log
import OfferService.Page
import OfferService.Storage.Table

/-
  OfferService.Storage.Store

  The operations on stored offers. Each is a query: it answers or fails, and leaves a store behind.
  A query checks its arguments in the order in which it hands them to the database, and whether
  there is a database at the moment it first turns to it.
-/
namespace OfferService.Storage

/-! ## Queries -/

/-- How the database behind a store can be reached. -/
inductive Access where
  | ready
  /-- The pool of connections was closed. -/
  | closed
  /-- The file was opened and has no table. -/
  | unprepared
  deriving DecidableEq, Repr, Inhabited

/-- The stored offers, and how they can be reached. -/
structure Store where
  access : Access := .ready
  table : Table := {}
  deriving DecidableEq, Repr, Inhabited

/-- An operation on a store. -/
abbrev Query (α : Type) := ExceptT Error (StateM Store) α

namespace Query

/-- Runs a query. -/
def on (q : Query α) (s : Store) : Except Error α × Store := q.run.run s

/-- Checks that a connection can be had. -/
def connect : Query Unit := do
  if (← get).access = .closed then throw (.sql .poolClosed)

/-- The table, for a statement about it. -/
def reach : Query Table := do
  connect
  let s ← get
  if s.access = .unprepared then throw (.sql .noTable)
  return s.table

/-- The outcome of a check, or its error. -/
def ensure : Except Error α → Query α
  | .ok a => pure a
  | .error e => throw e

/-- Runs a query of which nothing remains if it fails. -/
def transaction (q : Query α) : Query α := do
  connect
  let before ← get
  try q
  catch e =>
    set before
    throw e

end Query

namespace Store

open Query

/-! ## Writing -/

/-- Inserts an offer; returns its id. -/
def insert (o : Offer) : Query UInt64 := do
  let content ← ensure (Content.ofOffer o)
  match (← reach).insert content with
  | .ok (id, t) =>
    modify fun s => { s with table := t }
    return id.toUInt64
  | .error e => throw (.sql e)

/-- Creates an offer; returns its id. -/
def create (o : Offer) : Query UInt64 := insert o

/-- Inserts offers one after another. -/
def insertAll : List Offer → Query Unit
  | [] => pure ()
  | o :: os => do
    let _ ← insert o
    insertAll os

/-- Creates all offers or none; returns how many there are. -/
def createAll (os : List Offer) : Query Nat := do
  if os.isEmpty then return 0
  transaction (insertAll os)
  return os.length

/-- What is logged when an offer was created. -/
def createdLog (o : Offer) (id : UInt64) : List Log.Entry :=
  [⟨.debug, .store, "Created offer " ++ toString id.toNat ++ " for user " ++
    toString o.userId.toNat⟩]

/-- What is logged when offers were created together. -/
def batchLog (count : Nat) : List Log.Entry :=
  if count = 0 then []
  else [⟨.debug, .store, "Inserted batch of " ++ toString count ++ " offers"⟩]

/-- Replaces the content of an offer that is not removed. -/
def update (o : Offer) : Query Unit := do
  let content ← ensure (Content.ofOffer o)
  let id ← ensure (column o.id)
  let t ← reach
  if (t.find? id).isNone then throw (.offerNotFound o.id)
  let replace (r : Row) : Row :=
    { r with userId := content.userId, teamId := content.teamId, grade := content.grade }
  modify fun s => { s with table := t.modify id replace }

/-- Marks an offer as removed. -/
def remove (id : UInt64) : Query Unit := do
  let key ← ensure (column id)
  let t ← reach
  if (t.find? key).isNone then throw (.offerNotFound id)
  modify fun s => { s with table := t.modify key fun r => { r with isDeleted := 1 } }

/-- Inserts a row as it is, past all checks but those of the database. -/
def insertRow (r : Row) : Query Unit := do
  match (← reach).insertRow r with
  | .ok t => modify fun s => { s with table := t }
  | .error e => throw (.sql e)

/-! ## Reading -/

/-- The offer of an id, unless it is removed. -/
def describe (id : UInt64) : Query Offer := do
  let key ← ensure (column id)
  match (← reach).find? key with
  | some r => return r.toOffer
  | none => throw (.offerNotFound id)

/-- A window that passes over a number of a column has a page with a number. -/
theorem hasNumber_of_column {w : Window} {k : Int64} (held : column w.skip = .ok k) :
    w.HasNumber := by
  have hmax : maxColumn < UInt64.size - 1 := by decide
  exact Window.hasNumber_of_lt (Nat.lt_of_le_of_lt (column_eq_ok held).1 hmax)

/-- What a window passes over, as a column holds it. -/
def offset (w : Window) : Except Error { _offset : Int64 // w.HasNumber } :=
  match held : column w.skip with
  | .ok k => .ok ⟨k, hasNumber_of_column held⟩
  | .error e => .error e

/-- The offers in a window, in the order of their ids, and where the window stands. -/
def list (w : Window) : Query (List Offer × PageInfo) := do
  if w.take = 0 then throw .zeroPageSize
  let t ← reach
  let ⟨_, numbered⟩ ← ensure (offset w)
  let page := (t.live.drop w.skip.toNat).take w.take.toNat
  return (page.map Row.toOffer,
    w.place (UInt32.ofNat page.length) (UInt64.ofNat t.live.length) numbered)

/-- All rows, those of removed offers too. -/
def rows : Query (List Row) := do
  return (← reach).rows

/-! ## Lifecycle -/

/-- Prepares the table unless that was done. -/
def migrate : Query Unit := do
  if (← get).access = .closed then throw (.migration .poolClosed)
  modify fun s => { s with access := .ready }

/-- Closes the pool of connections. -/
def close (s : Store) : Store := { s with access := .closed }

end Store

end OfferService.Storage
