import OfferService.Proofs.Storage.Later
import OfferService.Proofs.Storage.Range

/-
  OfferService.Proofs.Storage.Outcome

  What each operation on single offers comes to on a store that can be reached, as one equation: what
  it answers, and which table it leaves behind. An operation refuses the first number that no column
  can hold; after that it all depends on the table. Nothing else is to be known of an operation, so no
  later proof runs one.
-/
namespace OfferService.Storage

open Query

/-! ## Operations on a store that can be reached -/

namespace Store

variable {s : Store} {o : Offer} {id : UInt64}

/-- Only a live offer is described. -/
theorem describe_on (ready : s.access = .ready) (fits : id.toNat ≤ maxColumn) :
    (describe id).on s =
      match s.table.find? id.toInt64 with
      | some r => (.ok r.toOffer, s)
      | none => (.error (.offerNotFound id), s) := by
  have hcheck : (ensure (column id)).on s = (.ok id.toInt64, s) := by
    rw [on_ensure, column_of_le fits]
  unfold describe
  rw [on_bind_ok hcheck, on_bind_ok (on_reach_of_ready ready)]
  cases s.table.find? id.toInt64 with
  | some r => rfl
  | none => rfl

theorem describe_of_tooLarge (large : ¬ id.toNat ≤ maxColumn) (s : Store) :
    (describe id).on s = (.error (.valueOutOfRange id), s) := by
  refine on_bind_error ?_
  rw [on_ensure, column_of_not_le large]

/-- Only a live offer is updated. -/
theorem update_on (ready : s.access = .ready) (h : Storable o) (fits : o.id.toNat ≤ maxColumn) :
    (update o).on s =
      match s.table.find? o.id.toInt64 with
      | some _ => (.ok (), { s with table := s.table.modify o.id.toInt64 (Content.ofNumbers o).into })
      | none => (.error (.offerNotFound o.id), s) := by
  have hcontent : (ensure (Content.ofOffer o)).on s = (.ok (Content.ofNumbers o), s) := by
    rw [on_ensure, Content.ofOffer_of_storable h]
  have hcheck : (ensure (column o.id)).on s = (.ok o.id.toInt64, s) := by
    rw [on_ensure, column_of_le fits]
  unfold update
  rw [on_bind_ok hcontent, on_bind_ok hcheck, on_bind_ok (on_reach_of_ready ready)]
  cases s.table.find? o.id.toInt64 with
  | some r => rfl
  | none => rfl

/-- The numbers of an offer are looked at before its id. -/
theorem update_of_tooLarge {n : UInt64}
    (large : (numbers o ++ [o.id]).find? isTooLarge = some n) (s : Store) :
    (update o).on s = (.error (.valueOutOfRange n), s) := by
  rw [List.find?_append] at large
  unfold update
  cases hnumbers : (numbers o).find? isTooLarge with
  | some m =>
    rw [hnumbers] at large
    cases large
    refine on_bind_error ?_
    rw [on_ensure, Content.ofOffer_eq, hnumbers]
  | none =>
    rw [hnumbers] at large
    have hid : isTooLarge o.id = true ∧ o.id = n := by simpa using large
    have hcontent : (ensure (Content.ofOffer o)).on s = (.ok (Content.ofNumbers o), s) := by
      rw [on_ensure, Content.ofOffer_eq, hnumbers]
    rw [on_bind_ok hcontent]
    refine on_bind_error ?_
    rw [on_ensure, column_of_not_le (isTooLarge_iff.mp hid.1), hid.2]

/-- Only a live offer is removed. -/
theorem remove_on (ready : s.access = .ready) (fits : id.toNat ≤ maxColumn) :
    (remove id).on s =
      match s.table.find? id.toInt64 with
      | some _ => (.ok (), { s with table := s.table.modify id.toInt64 Row.marked })
      | none => (.error (.offerNotFound id), s) := by
  have hcheck : (ensure (column id)).on s = (.ok id.toInt64, s) := by
    rw [on_ensure, column_of_le fits]
  unfold remove
  rw [on_bind_ok hcheck, on_bind_ok (on_reach_of_ready ready)]
  cases s.table.find? id.toInt64 with
  | some r => rfl
  | none => rfl

theorem remove_of_tooLarge (large : ¬ id.toNat ≤ maxColumn) (s : Store) :
    (remove id).on s = (.error (.valueOutOfRange id), s) := by
  refine on_bind_error ?_
  rw [on_ensure, column_of_not_le large]

/-- An empty window shows nothing, not even the store. -/
theorem list_of_empty {w : Window} (empty : w.take = 0) (s : Store) :
    (list w).on s = (.error .zeroPageSize, s) := by
  unfold list
  simp only [if_pos empty]
  exact on_bind_error rfl

/-- What a window passes over is held by a column as any number is. -/
theorem offset_of_le {w : Window} (fits : w.skip.toNat ≤ maxColumn) :
    offset w = .ok ⟨w.skip.toInt64, hasNumber_of_column (column_of_le fits)⟩ := by
  unfold offset
  split
  · rename_i held
    rw [column_of_le fits] at held
    cases held
    rfl
  · rename_i refused
    rw [column_of_le fits] at refused
    cases refused

theorem offset_of_not_le {w : Window} (large : ¬ w.skip.toNat ≤ maxColumn) :
    offset w = .error (.valueOutOfRange w.skip) := by
  unfold offset
  split
  · rename_i held
    rw [column_of_not_le large] at held
    cases held
  · rename_i refused
    rw [column_of_not_le large] at refused
    cases refused
    rfl

theorem list_of_tooLarge {w : Window} (ready : s.access = .ready) (some : w.take ≠ 0)
    (large : ¬ w.skip.toNat ≤ maxColumn) :
    (list w).on s = (.error (.valueOutOfRange w.skip), s) := by
  have hcheck : (ensure (offset w)).on s = (.error (.valueOutOfRange w.skip), s) := by
    rw [on_ensure, offset_of_not_le large]
  unfold list
  simp only [if_neg some]
  rw [on_bind_ok (on_reach_of_ready ready), on_bind_error hcheck]

/-- The page of a window. -/
def page (t : Table) (w : Window) : List Row := (t.live.drop w.skip.toNat).take w.take.toNat

/-- A window of any size shows live offers. -/
theorem list_on {w : Window} (ready : s.access = .ready) (some : w.take ≠ 0)
    (fits : w.skip.toNat ≤ maxColumn) : (list w).on s =
      (.ok ((page s.table w).map Row.toOffer, w.place (UInt32.ofNat (page s.table w).length)
        (UInt64.ofNat s.table.live.length) (hasNumber_of_column (column_of_le fits))), s) := by
  have hcheck : (ensure (offset w)).on s =
      (.ok ⟨w.skip.toInt64, hasNumber_of_column (column_of_le fits)⟩, s) := by
    rw [on_ensure, offset_of_le fits]
  unfold list
  simp only [if_neg some]
  rw [on_bind_ok (on_reach_of_ready ready), on_bind_ok hcheck]
  rfl

end Store

end OfferService.Storage
