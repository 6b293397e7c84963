import OfferService.Proofs.Batch.Flush

/-
  OfferService.Proofs.Batch.Chunks

  A list in chunks, each of which is split on its own. Chunks of a given length do not change when
  more items come behind them, so what is done with a list that grows can be said chunk by chunk,
  as soon as each of them is whole.
-/
namespace OfferService.Batch

variable {α : Type} {size groups : Nat} {front last items : List α} {before batches : List (List α)}

/-! ## A list in chunks -/

/-- Pieces of one length are the same with more items behind them. -/
theorem chunks_append (hs : 0 < size) (whole : size ∣ front.length) (back : List α) :
    chunks size (front ++ back) = chunks size front ++ chunks size back := by
  fun_induction chunks size front with
  | case1 => rfl
  | case2 first rest ih =>
    have hle : size ≤ rest.length + 1 := Nat.le_of_dvd (Nat.succ_pos _) whole
    have hrest : size ∣ (rest.drop (size - 1)).length := by
      have hlength : (rest.drop (size - 1)).length = (first :: rest).length - size := by
        rw [List.length_drop, List.length_cons]
        omega
      rw [hlength]
      exact Nat.dvd_sub whole (Nat.dvd_refl size)
    rw [List.cons_append, chunks, List.take_append_of_le_length (by omega),
      List.drop_append_of_le_length (by omega), ih hrest]
    rfl

/-- A list that is no longer than a piece is one piece. -/
theorem chunks_of_length_le (hi : items ≠ []) (hle : items.length ≤ size) :
    chunks size items = [items] := by
  obtain ⟨first, rest, rfl⟩ := List.exists_cons_of_ne_nil hi
  have hrest : rest.length ≤ size - 1 := Nat.le_sub_one_of_lt hle
  rw [chunks, List.take_of_length_le hrest, List.drop_of_length_le hrest, chunks]

/-- The batches of each chunk of `size` items, one chunk after another. -/
def splitEach (size groups : Nat) (items : List α) : Except SplitError (List (List α)) := do
  let parts ← (chunks size items).mapM fun chunk => split chunk groups
  return parts.flatten

theorem splitEach_nil : splitEach size groups ([] : List α) = .ok [] := by
  rw [splitEach, chunks]
  rfl

/-- One more chunk behind whole ones. -/
theorem splitEach_append (hs : 0 < size) (whole : size ∣ front.length)
    (hfront : splitEach size groups front = .ok before) (hi : last ≠ [])
    (hle : last.length ≤ size) (hlast : split last groups = .ok batches) :
    splitEach size groups (front ++ last) = .ok (before ++ batches) := by
  unfold splitEach at hfront ⊢
  rw [chunks_append hs whole, chunks_of_length_le hi hle, List.mapM_append, List.mapM_cons, hlast]
  cases hparts : (chunks size front).mapM fun chunk => split chunk groups with
  | error e => rw [hparts] at hfront; cases hfront
  | ok parts =>
    rw [hparts] at hfront
    cases hfront
    show Except.ok (parts ++ [batches]).flatten = _
    rw [List.flatten_append, List.flatten_singleton]

/-- These items are whole chunks, and these batches are their splits. -/
structure Aligned (size groups : Nat) (items : List α) (batches : List (List α)) : Prop where
  whole : size ∣ items.length
  cut : splitEach size groups items = .ok batches

theorem aligned_nil : Aligned size groups ([] : List α) [] := ⟨Nat.dvd_zero _, splitEach_nil⟩

theorem Aligned.append (h : Aligned size groups front before) (hs : 0 < size)
    (hlast : last.length = size) (hsplit : split last groups = .ok batches) :
    Aligned size groups (front ++ last) (before ++ batches) := by
  have hne : last ≠ [] := List.length_pos_iff.mp (by omega)
  refine ⟨?_, splitEach_append hs h.whole h.cut hne (Nat.le_of_eq hlast) hsplit⟩
  rw [List.length_append, hlast]
  exact Nat.dvd_add h.whole (Nat.dvd_refl size)

end OfferService.Batch
