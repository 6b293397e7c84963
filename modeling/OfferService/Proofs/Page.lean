import Mathlib.Algebra.Order.Floor.Div
import OfferService.Page

/-
  OfferService.Proofs.Page

  The arithmetic of pages, in natural numbers: no quotient is too large for 64 bits. A window that
  begins where a page begins has a next page if and only if items remain after it.
-/
namespace OfferService

/-- A quotient that leaves a rest is far below the largest number, for its divisor is two at
    least. -/
theorem toNat_div_succ_lt {a b : UInt64} (inexact : a % b ≠ 0) :
    (a / b).toNat + 1 < UInt64.size := by
  have hrest : a.toNat % b.toNat ≠ 0 := by
    rw [← UInt64.toNat_mod]
    exact mt (UInt64.toNat_inj (b := 0)).mp inexact
  have hone : b.toNat ≠ 1 := fun hone => hrest (by rw [hone, Nat.mod_one])
  have hsize : UInt64.size = 2 ^ 64 := rfl
  have hlt := a.toNat_lt
  rw [UInt64.toNat_div]
  by_cases hzero : b.toNat = 0
  · rw [hzero, Nat.div_zero]
    omega
  · have hhalf : a.toNat / b.toNat ≤ a.toNat / 2 := Nat.div_le_div_left (by omega) (by omega)
    omega

/-- A quotient is rounded up, and always fits. -/
theorem toNat_divCeil {a b : UInt64} (pos : b ≠ 0) :
    (divCeil a b).toNat = a.toNat ⌈/⌉ b.toNat := by
  have hpos : 0 < b.toNat := UInt64.lt_iff_toNat_lt.mp (UInt64.pos_iff_ne_zero.mpr pos)
  have hlt := Nat.mod_lt a.toNat hpos
  have hsplit : a.toNat / b.toNat * b.toNat + a.toNat % b.toNat = a.toNat :=
    Nat.div_add_mod' a.toNat b.toNat
  have hmod : a % b = 0 ↔ a.toNat % b.toNat = 0 := by
    rw [← UInt64.toNat_inj, UInt64.toNat_mod]
    rfl
  rw [Nat.ceilDiv_eq_add_pred_div]
  unfold divCeil
  symm
  split
  · rename_i exact
    have hzero := hmod.mp exact
    rw [UInt64.toNat_div]
    refine Nat.div_eq_of_lt_le (by omega) ?_
    rw [Nat.succ_mul]
    omega
  · rename_i inexact
    have hrest : a.toNat % b.toNat ≠ 0 := mt hmod.mpr inexact
    have hone : (1 : UInt64).toNat = 1 := rfl
    rw [UInt64.toNat_add, hone, Nat.mod_eq_of_lt (toNat_div_succ_lt inexact), UInt64.toNat_div]
    refine Nat.div_eq_of_lt_le ?_ ?_
    · rw [Nat.succ_mul]
      omega
    · rw [Nat.succ_mul, Nat.succ_mul]
      omega

namespace Window

variable {w : Window}

theorem toNat_take_pos (some : w.take ≠ 0) : 0 < w.take.toNat :=
  UInt32.lt_iff_toNat_lt.mp (UInt32.pos_iff_ne_zero.mpr some)

/-- A window is as large as it says, and holds one item at least. -/
theorem toNat_pageSize_eq_max (w : Window) : w.pageSize.toNat = max w.take.toNat 1 := by
  have hone : (1 : UInt32).toNat = 1 := rfl
  show ((if w.take ≤ 1 then 1 else w.take).toUInt64).toNat = _
  rw [UInt32.toNat_toUInt64]
  split
  · rename_i hle
    rw [UInt32.le_iff_toNat_le] at hle
    omega
  · rename_i hgt
    rw [UInt32.le_iff_toNat_le] at hgt
    omega

/-- A window that shows something is as large as it says. -/
theorem toNat_pageSize (some : w.take ≠ 0) : w.pageSize.toNat = w.take.toNat := by
  rw [toNat_pageSize_eq_max, Nat.max_eq_left (toNat_take_pos some)]

theorem pageSize_ne_zero (some : w.take ≠ 0) : w.pageSize ≠ 0 := by
  intro hzero
  have hsize := toNat_pageSize some
  rw [hzero] at hsize
  exact absurd hsize.symm (Nat.ne_of_gt (toNat_take_pos some))

/-- The number of the page, counted from one: what is passed over, in pages, rounded up. -/
theorem toNat_page_place (perPage : UInt32) (total : UInt64) (some : w.take ≠ 0)
    (numbered : w.HasNumber) :
    (w.place perPage total numbered).page.toNat = w.skip.toNat ⌈/⌉ w.take.toNat + 1 := by
  rw [toNat_page, toNat_divCeil (pageSize_ne_zero some), toNat_pageSize some]

/-- Where a page begins nothing is rounded: it is the one after the first `k`. -/
theorem ceilDiv_of_aligned {k : Nat} (some : w.take ≠ 0)
    (aligned : w.skip.toNat = k * w.take.toNat) : w.skip.toNat ⌈/⌉ w.take.toNat = k := by
  rw [aligned, Nat.mul_comm]
  exact smul_ceilDiv (toNat_take_pos some) k

/-- There is a page before this one if anything is passed over. -/
theorem hasPrevious_place (perPage : UInt32) (total : UInt64) (some : w.take ≠ 0)
    (numbered : w.HasNumber) :
    (w.place perPage total numbered).hasPrevious = true ↔ 0 < w.skip.toNat := by
  have hpage := toNat_page_place perPage total some numbered
  have hone : (1 : UInt64).toNat = 1 := rfl
  have hzero : w.skip.toNat ⌈/⌉ w.take.toNat ≤ 0 ↔ w.skip.toNat ≤ 0 := by
    rw [ceilDiv_le_iff_le_mul (toNat_take_pos some), Nat.mul_zero]
  show decide (1 < (w.place perPage total numbered).page) = true ↔ _
  rw [decide_eq_true_iff, UInt64.lt_iff_toNat_lt, hpage, hone]
  omega

/-- There is a next page if items remain after the one whose number is told. -/
theorem hasNext_iff (perPage : UInt32) (total : UInt64) (some : w.take ≠ 0)
    (numbered : w.HasNumber) :
    (w.place perPage total numbered).hasNext = true ↔
      w.skip.toNat ⌈/⌉ w.take.toNat * w.take.toNat + w.take.toNat < total.toNat := by
  have hpage := toNat_page_place perPage total some numbered
  show decide ((w.place perPage total numbered).page < divCeil total w.pageSize) = true ↔ _
  rw [decide_eq_true_iff, UInt64.lt_iff_toNat_lt, hpage,
    toNat_divCeil (pageSize_ne_zero some), toNat_pageSize some, ← Nat.not_le,
    ceilDiv_le_iff_le_mul (toNat_take_pos some), Nat.not_le, Nat.mul_comm, Nat.succ_mul]

/-- After a window that begins where a page begins there is a next page if items remain. -/
theorem hasNext_place (perPage : UInt32) (total : UInt64) {k : Nat} (some : w.take ≠ 0)
    (aligned : w.skip.toNat = k * w.take.toNat) (numbered : w.HasNumber) :
    (w.place perPage total numbered).hasNext = true ↔
      w.skip.toNat + w.take.toNat < total.toNat := by
  rw [hasNext_iff perPage total some numbered, ceilDiv_of_aligned some aligned, aligned]

end Window

end OfferService
