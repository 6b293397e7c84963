import OfferService.Json.Record

/-
  OfferService.Page

  A window on a list, and what its reader has to know to move on: the number of the page, how many
  pages there are, and whether there are some before and after.
-/
namespace OfferService

/-- A window: how many items to show, and how many to pass over. -/
structure Window where
  take : UInt32
  skip : UInt64 := 0
  deriving DecidableEq, Repr

/-- Where a page stands in the whole list. -/
structure PageInfo where
  hasPrevious : Bool
  hasNext : Bool
  /-- The number of items on the page. -/
  perPage : UInt32
  page : UInt64
  totalPages : UInt64
  totalItems : UInt64
  deriving DecidableEq, Repr

/-! ## Page arithmetic -/

/-- What happens when a number leaves the 64 bits: the computation is given up. -/
inductive Overflow where
  | add
  deriving DecidableEq, Repr

/-- What is said when a computation is given up. -/
def Overflow.message : Overflow → String
  | .add => "attempt to add with overflow"

/-- A quotient rounded up. -/
def divCeil (a b : UInt64) : UInt64 := if a % b = 0 then a / b else a / b + 1

/-- A quotient is not more than what is divided. -/
theorem toNat_divCeil_le (a b : UInt64) : (divCeil a b).toNat ≤ a.toNat := by
  unfold divCeil
  split
  · rw [UInt64.toNat_div]
    exact Nat.div_le_self _ _
  · rename_i inexact
    have hrest : a.toNat % b.toNat ≠ 0 := by
      rw [← UInt64.toNat_mod]
      exact mt (UInt64.toNat_inj (b := 0)).mp inexact
    have hsplit := Nat.div_add_mod' a.toNat b.toNat
    have hle : a.toNat / b.toNat + 1 ≤ a.toNat := by
      by_cases hzero : b.toNat = 0
      · rw [hzero, Nat.div_zero]
        rw [hzero, Nat.mod_zero] at hrest
        omega
      · have hquot := Nat.le_mul_of_pos_right (a.toNat / b.toNat) (Nat.pos_of_ne_zero hzero)
        omega
    rw [UInt64.toNat_add, UInt64.toNat_div]
    exact Nat.le_trans (Nat.mod_le _ _) hle

namespace Window

/-- The size of a page; an empty window counts as one of a single item. -/
def pageSize (w : Window) : UInt64 := (max w.take 1).toUInt64

/-- Pages are counted from one: is there a number for the page after those passed over? -/
def HasNumber (w : Window) : Prop := (divCeil w.skip w.pageSize).toNat + 1 < UInt64.size

instance (w : Window) : Decidable w.HasNumber := Nat.decLt _ _

theorem hasNumber_of_lt {w : Window} (fits : w.skip.toNat < UInt64.size - 1) : w.HasNumber := by
  have hle := toNat_divCeil_le w.skip w.pageSize
  unfold HasNumber
  omega

/-- Where the window stands in a list of `total` items, of which it shows `perPage`, if its page has
    a number. -/
def place (w : Window) (perPage : UInt32) (total : UInt64) (numbered : w.HasNumber) : PageInfo :=
  let totalPages := divCeil total w.pageSize
  let page := UInt64.ofNatLT ((divCeil w.skip w.pageSize).toNat + 1) numbered
  { hasPrevious := 1 < page, hasNext := page < totalPages, perPage, page, totalPages,
    totalItems := total }

theorem toNat_page (w : Window) (perPage : UInt32) (total : UInt64) (numbered : w.HasNumber) :
    (w.place perPage total numbered).page.toNat = (divCeil w.skip w.pageSize).toNat + 1 :=
  UInt64.toNat_ofNatLT

/-- Where any window stands. -/
def info (w : Window) (perPage : UInt32) (total : UInt64) : Except Overflow PageInfo :=
  if numbered : w.HasNumber then .ok (w.place perPage total numbered) else .error .add

theorem info_of_hasNumber {w : Window} (numbered : w.HasNumber) (perPage : UInt32)
    (total : UInt64) : w.info perPage total = .ok (w.place perPage total numbered) :=
  dif_pos numbered

theorem info_of_not_hasNumber {w : Window} (beyond : ¬ w.HasNumber) (perPage : UInt32)
    (total : UInt64) : w.info perPage total = .error .add :=
  dif_neg beyond

/-! ## Reading -/

open OfferService.Json

/-- The members of a window that were read so far. -/
structure Draft where
  take : Option UInt32 := none
  skip : Option UInt64 := none
  deriving DecidableEq, Repr

/-- How a window is written; nothing is passed over unless the text says so. -/
def shape : Shape Draft Window where
  expected := .record "PaginationInput"
  asArray := some (.recordOf "PaginationInput" 2)
  members :=
    [.field "take" (·.take) (fun d v => { d with take := v }) fun _ => word32,
      .field "skip" (·.skip) (fun d v => { d with skip := v }) fun _ => word64]
  blank := {}
  build d := do
    let take ← required "take" d.take
    .ok { take, skip := d.skip.getD 0 }

/-- Reads a text that is a window. -/
def ofText (text : List UInt8) : Except Fault Window := Json.read (shape.read .text) text

end Window

end OfferService
