import OfferService.Offer.Basic
import OfferService.Storage.Error

/-
  OfferService.Storage.Table

  The table of offers. Columns hold signed 64-bit integers. Rows are never deleted: a removed offer
  keeps its row, with a mark. New rows get ids in ascending order, and an id that was ever used is
  not issued again.
-/
namespace OfferService.Storage

/-! ## Rows -/

/-- A stored row. -/
structure Row where
  id : Int64
  userId : Int64
  teamId : Int64
  grade : Int64
  /-- Zero for an offer that is not removed. -/
  isDeleted : Int64
  deriving DecidableEq, Repr

namespace Row

/-- Is the offer of this row not removed? -/
def isLive (r : Row) : Bool := r.isDeleted == 0

/-- The offer of a row; a negative number is read as the unsigned one of the same bits. -/
def toOffer (r : Row) : Offer where
  id := r.id.toUInt64
  userId := r.userId.toUInt64
  teamId := r.teamId.toUInt64
  grade := r.grade.toUInt64
  isDeleted := !r.isLive

/-- The five columns. -/
def toList (r : Row) : List Int64 := [r.id, r.userId, r.teamId, r.grade, r.isDeleted]

end Row

/-- The largest number a column holds. -/
def maxColumn : Nat := Nat.pow 2 63 - 1

/-- A number as a column holds it. -/
def column (value : UInt64) : Except Error Int64 :=
  if value.toNat ≤ maxColumn then .ok value.toInt64 else .error (.valueOutOfRange value)

theorem column_eq_ok {n : UInt64} {key : Int64} (h : column n = .ok key) :
    n.toNat ≤ maxColumn ∧ key = n.toInt64 := by
  unfold column at h
  split at h
  · rename_i fits
    cases h
    exact ⟨fits, rfl⟩
  · cases h

/-- The three columns of an offer that its writer chooses. -/
structure Content where
  userId : Int64
  teamId : Int64
  grade : Int64
  deriving DecidableEq, Repr

/-- The columns of an offer; the first that does not fit is at fault. -/
def Content.ofOffer (o : Offer) : Except Error Content := do
  let userId ← column o.userId
  let teamId ← column o.teamId
  let grade ← column o.grade
  .ok { userId, teamId, grade }

/-- The row of an id with the given content. -/
def Content.toRow (c : Content) (id : Int64) : Row :=
  { id, userId := c.userId, teamId := c.teamId, grade := c.grade, isDeleted := 0 }

/-! ## The table -/

/-- The rows, the largest id first, and the largest id ever used, or zero. -/
structure Table where
  descending : List Row := []
  issued : Nat := 0
  deriving DecidableEq, Repr, Inhabited

namespace Table

/-- All rows, the smallest id first. -/
def rows (t : Table) : List Row := t.descending.reverse

/-- The rows of the offers that are not removed, the smallest id first. -/
def live (t : Table) : List Row := t.rows.filter Row.isLive

/-- The live row of an id. -/
def find? (t : Table) (id : Int64) : Option Row :=
  t.descending.find? fun r => r.id == id && r.isLive

/-- Is there a row of that id, live or removed? -/
def hasId (t : Table) (id : Int64) : Bool := t.descending.any fun r => r.id == id

/-- Puts a row to its place. -/
def place (r : Row) : List Row → List Row
  | [] => [r]
  | first :: rest => if first.id < r.id then r :: first :: rest else first :: place r rest

/-- Adds a row with an id of its own choice. -/
def insertRow (t : Table) (r : Row) : Except SqlError Table :=
  if t.hasId r.id then .error .idTaken
  else .ok { descending := place r t.descending, issued := max t.issued r.id.toInt.toNat }

/-- Adds a row under the next id. -/
def insert (t : Table) (c : Content) : Except SqlError (Int64 × Table) :=
  if t.issued < maxColumn then
    let id := Int64.ofNat (t.issued + 1)
    .ok (id, { descending := place (c.toRow id) t.descending, issued := t.issued + 1 })
  else .error .full

/-- Changes the live row of an id. -/
def modify (t : Table) (id : Int64) (f : Row → Row) : Table :=
  { t with descending := t.descending.map fun r => if r.id == id && r.isLive then f r else r }

end Table

end OfferService.Storage
