import Mathlib.Algebra.Order.Floor.Div
import OfferService.Proofs.Batch.Flush

/-
  OfferService.Proofs.Batch.Length

  How long batches are. The length of a batch is the number of items over the number of groups,
  rounded up, so it grows with the items: a bound on the items of any flush, however it came about,
  bounds all of its batches.
-/
namespace OfferService.Batch

variable {α : Type}

/-! ## Pieces -/

/-- No piece is longer than the size that was asked for. -/
theorem length_le_of_mem_chunks {size : Nat} {items batch : List α} (hs : 0 < size)
    (h : batch ∈ chunks size items) : batch.length ≤ size := by
  fun_induction chunks size items with
  | case1 => cases h
  | case2 first rest ih =>
    rcases List.mem_cons.mp h with h | h
    · have htake : (rest.take (size - 1)).length ≤ size - 1 := List.length_take_le _ _
      rw [h, List.length_cons]
      omega
    · exact ih h

/-! ## The length of a batch -/

/-- Batches of at most as many items as there are groups have one item each. -/
theorem ceilDiv_eq_one {n groups : Nat} (hn : 0 < n) (h : n ≤ groups) : n ⌈/⌉ groups = 1 := by
  rw [Nat.ceilDiv_eq_add_pred_div]
  exact Nat.div_eq_of_lt_le (by omega) (by omega)

/-- The length of a batch is the quotient rounded up. -/
theorem step_eq_ceilDiv {n groups : Nat} (hn : 0 < n) :
    step n groups = n ⌈/⌉ groups := by
  unfold step
  rcases Nat.le_total groups n with h | h
  · rw [Nat.min_eq_left h, Nat.ceilDiv_eq_add_pred_div]
  · -- The groups that are more than the items are not used.
    have hone : (n + n - 1) / n = 1 := Nat.div_eq_of_lt_le (by omega) (by omega)
    rw [Nat.min_eq_right h, ceilDiv_eq_one hn h]
    exact hone

/-- More items do not make shorter batches. -/
theorem ceilDiv_le_ceilDiv {n m groups : Nat} (h : n ≤ m) : n ⌈/⌉ groups ≤ m ⌈/⌉ groups := by
  rw [Nat.ceilDiv_eq_add_pred_div, Nat.ceilDiv_eq_add_pred_div]
  exact Nat.div_le_div_right (by omega)

theorem step_le_step {n m groups : Nat} (hn : 0 < n) (h : n ≤ m) :
    step n groups ≤ step m groups := by
  rw [step_eq_ceilDiv hn, step_eq_ceilDiv (Nat.lt_of_lt_of_le hn h)]
  exact ceilDiv_le_ceilDiv h

/-- A batch of something is not empty. -/
theorem step_pos {n groups : Nat} (hn : 0 < n) (hg : 0 < groups) : 0 < step n groups := by
  rw [step_eq_ceilDiv hn, Nat.ceilDiv_eq_add_pred_div]
  exact Nat.div_pos (by omega) hg

/-! ## The number of batches -/

/-- There are as many pieces as the size goes into the list, rounded up. -/
theorem length_chunks {size : Nat} (hs : 0 < size) (items : List α) :
    (chunks size items).length = items.length ⌈/⌉ size := by
  fun_induction chunks size items with
  | case1 => rw [List.length_nil, List.length_nil, zero_ceilDiv]
  | case2 first rest ih =>
    rw [List.length_cons, ih, List.length_drop, List.length_cons, Nat.ceilDiv_eq_add_pred_div,
      Nat.ceilDiv_eq_add_pred_div, ← Nat.add_div_right _ hs]
    -- A last piece may be shorter than the size.
    rcases Nat.le_total (size - 1) rest.length with h | h
    · congr 1
      omega
    · have hone : (rest.length + 1 + size - 1) / size = 1 :=
        Nat.div_eq_of_lt_le (by omega) (by omega)
      rw [hone]
      exact Nat.div_eq_of_lt_le (by omega) (by omega)

/-- A list goes into no more batches than were asked for. -/
theorem length_split_le {items : List α} {groups : Nat} {batches : List (List α)}
    (h : split items groups = .ok batches) (hg : 0 < groups) : batches.length ≤ groups := by
  rw [split_eq_ok h]
  rcases Nat.eq_zero_or_pos items.length with hzero | hpos
  · rw [List.eq_nil_of_length_eq_zero hzero, chunks]
    exact Nat.zero_le _
  · have hstep := step_pos hpos hg
    rw [length_chunks hstep, ceilDiv_le_iff_le_smul hstep, step_eq_ceilDiv hpos, smul_eq_mul,
      Nat.mul_comm, ← smul_eq_mul]
    exact le_smul_ceilDiv hg

/-! ## The first batch -/

/-- The first batch that items are cut into. -/
def head (items : List α) (groups : Nat) : List α := items.take (step items.length groups)

theorem chunks_eq_cons {size : Nat} {items : List α} (hs : 0 < size) (hi : items ≠ []) :
    ∃ later, chunks size items = items.take size :: later := by
  obtain ⟨first, rest, rfl⟩ := List.exists_cons_of_ne_nil hi
  obtain ⟨k, rfl⟩ := Nat.exists_eq_add_of_lt hs
  unfold chunks
  refine ⟨_, congrArg (· :: _) ?_⟩
  rw [Nat.zero_add, List.take_succ_cons]
  rfl

/-- With more items behind them, the items of the first batch are in the first batch still. -/
theorem mem_head_append {items : List α} {groups : Nat} {a : α} (h : a ∈ head items groups)
    (more : List α) : a ∈ head (items ++ more) groups := by
  have hitems : 0 < items.length := List.length_pos_of_mem (List.mem_of_mem_take h)
  have hle : step items.length groups ≤ step (items ++ more).length groups :=
    step_le_step hitems (by rw [List.length_append]; omega)
  apply List.take_subset_take_left _ hle
  rw [List.take_append]
  exact List.mem_append_left _ h

/-! ## A flush under way -/

/-- A flush that has stored nothing is at its first batch. -/
theorem Flush.Cuts.current_eq_head {f : Flush α} {items : List α} {groups : Nat}
    (h : f.Cuts items groups) (hg : 0 < groups) (whole : f.unstored = items) :
    f.current = head items groups := by
  have hstored := h.stored_eq_nil (Nat.le_of_eq (congrArg List.length whole).symm)
  have hitems : items ≠ [] := by
    intro hnil
    rw [hnil] at whole
    exact h.current_ne_nil (List.append_eq_nil_iff.mp whole).1
  obtain ⟨later, hchunks⟩ :=
    chunks_eq_cons (step_pos (List.length_pos_iff.mpr hitems) hg) hitems
  have hsplit := split_eq_ok h.split_eq
  rw [hstored, hchunks] at hsplit
  exact (List.cons.inj hsplit).1

/-- The batch that storage has is not empty, and no longer than a batch of as many items as there
    may be. -/
theorem Flush.Cuts.current_fits {f : Flush α} {items : List α} {groups most : Nat}
    (h : f.Cuts items groups) (hg : 0 < groups) (hle : items.length ≤ most) :
    f.current ≠ [] ∧ f.current.length ≤ most ⌈/⌉ groups := by
  have hmem := f.current_mem
  have hne := h.current_ne_nil
  -- A batch that is not empty comes from items that are not none.
  have hitems : 0 < items.length := by
    have hcurrent : 0 < f.current.length := List.length_pos_iff.mpr hne
    have hlen := congrArg List.length h.stored_append_unstored
    rw [Flush.unstored, List.length_append, List.length_append] at hlen
    omega
  refine ⟨hne, ?_⟩
  rw [split_eq_ok h.split_eq, step_eq_ceilDiv hitems] at hmem
  have hstep : 0 < items.length ⌈/⌉ groups := by
    rw [← step_eq_ceilDiv hitems]
    exact step_pos hitems hg
  calc f.current.length ≤ items.length ⌈/⌉ groups := length_le_of_mem_chunks hstep hmem
    _ ≤ most ⌈/⌉ groups := ceilDiv_le_ceilDiv hle

end OfferService.Batch
