import OfferService.Batch.Flush

/-
  OfferService.Proofs.Batch.Flush

  What a flush does with the items it was given. The batches of a split are consecutive and none is
  empty, so a flush under way is a split cut at the batch that storage has: `Flush.Cuts` says so,
  and every answer keeps it. What the end of a flush leaves behind is read off that cut.
-/
namespace OfferService.Batch

variable {α : Type}

/-! ## Batches -/

/-- The pieces of a list put together give the list. -/
theorem chunks_flatten (size : Nat) (items : List α) : (chunks size items).flatten = items := by
  fun_induction chunks size items with
  | case1 => rfl
  | case2 first rest ih =>
    rw [List.flatten_cons, ih, List.cons_append, List.take_append_drop]

/-- No piece is empty. -/
theorem ne_nil_of_mem_chunks {size : Nat} {items batch : List α} (h : batch ∈ chunks size items) :
    batch ≠ [] := by
  fun_induction chunks size items with
  | case1 => cases h
  | case2 first rest ih =>
    rcases List.mem_cons.mp h with h | h
    · rw [h]
      exact List.cons_ne_nil _ _
    · exact ih h

/-- A list that is not empty has a piece. -/
theorem chunks_ne_nil {size : Nat} {items : List α} (h : items ≠ []) : chunks size items ≠ [] := by
  intro hc
  have hf := chunks_flatten size items
  rw [hc, List.flatten_nil] at hf
  exact h hf.symm

/-- Any list goes into any number of groups but none. -/
theorem split_of_pos {groups : Nat} (hg : 0 < groups) (items : List α) :
    split items groups = .ok (chunks (step items.length groups) items) := by
  rw [split, if_neg (Nat.ne_of_gt hg)]

/-- A split that succeeds is the list in pieces. -/
theorem split_eq_ok {items : List α} {groups : Nat} {batches : List (List α)}
    (h : split items groups = .ok batches) : batches = chunks (step items.length groups) items := by
  unfold split at h
  split at h
  · cases h
  · exact (Except.ok.inj h).symm

/-- The batches of a list put together give the list. -/
theorem split_flatten {items : List α} {groups : Nat} {batches : List (List α)}
    (h : split items groups = .ok batches) : batches.flatten = items := by
  rw [split_eq_ok h, chunks_flatten]

/-- No batch is empty. -/
theorem ne_nil_of_mem_split {items batch : List α} {groups : Nat} {batches : List (List α)}
    (h : split items groups = .ok batches) (hb : batch ∈ batches) : batch ≠ [] := by
  rw [split_eq_ok h] at hb
  exact ne_nil_of_mem_chunks hb

/-! ## A flush under way -/

/-- A flush is the split of its items, cut at the batch that storage has. -/
structure Flush.Cuts (f : Flush α) (items : List α) (groups : Nat) : Prop where
  split_eq : split items groups = .ok (f.stored.reverse ++ f.current :: f.later)
  total_eq : f.total = items.length

/-- The batch that storage has is one of the split. -/
theorem Flush.current_mem (f : Flush α) :
    f.current ∈ f.stored.reverse ++ f.current :: f.later :=
  List.mem_append_right _ List.mem_cons_self

/-- A flush of something into at least one batch begins with storage being given the first. -/
theorem Flush.exists_start {items : List α} {groups : Nat} (hi : items ≠ []) (hg : 0 < groups) :
    ∃ f, Flush.start items groups = .waiting f ∧ f.Cuts items groups ∧ f.unstored = items := by
  have hs := split_of_pos hg items
  obtain ⟨first, later, hc⟩ := List.exists_cons_of_ne_nil
    (show chunks (Batch.step items.length groups) items ≠ [] from chunks_ne_nil hi)
  rw [hc] at hs
  refine ⟨{ total := items.length, current := first, later }, ?_, ⟨hs, rfl⟩, ?_⟩
  · unfold Flush.start
    rw [hs]
  · rw [← split_flatten hs]
    rfl

namespace Flush.Cuts

variable {f g : Flush α} {items : List α} {groups : Nat}

/-- What is stored and what is not make up the items. -/
theorem stored_append_unstored (h : f.Cuts items groups) :
    f.stored.reverse.flatten ++ f.unstored = items := by
  rw [← split_flatten h.split_eq, List.flatten_append, List.flatten_cons, Flush.unstored]

theorem current_ne_nil (h : f.Cuts items groups) : f.current ≠ [] :=
  ne_nil_of_mem_split h.split_eq f.current_mem

/-- A flush that left everything behind has stored no batch. -/
theorem stored_eq_nil (h : f.Cuts items groups) (hl : items.length ≤ f.unstored.length) :
    f.stored = [] := by
  have hlen := congrArg List.length h.stored_append_unstored
  rw [List.length_append] at hlen
  -- All items are among those not stored, so the stored batches hold none.
  have hz : f.stored.reverse.flatten = [] := List.eq_nil_of_length_eq_zero (by omega)
  apply List.eq_nil_iff_forall_not_mem.mpr
  intro batch hb
  have hr : batch ∈ f.stored.reverse := List.mem_reverse.mpr hb
  exact ne_nil_of_mem_split h.split_eq (List.mem_append_left _ hr)
    (List.flatten_eq_nil_iff.mp hz batch hr)

/-- The flush goes on with the split it began with. -/
theorem answer {r : Except Storage.Error Unit} (h : f.Cuts items groups)
    (ha : f.answer r = .waiting g) : g.Cuts items groups := by
  unfold Flush.answer at ha
  split at ha
  · cases ha
  · split at ha
    · cases ha
    · rename_i next later hl
      cases ha
      -- The batch that was stored moves to the other side of the cut.
      refine ⟨?_, h.total_eq⟩
      rw [h.split_eq, hl]
      simp

end Flush.Cuts

/-! ## Answers -/

/-- A flush goes on only after the batch was stored, and with the batches after it. -/
theorem Flush.answer_waiting {f g : Flush α} {r : Except Storage.Error Unit}
    (h : f.answer r = .waiting g) : r = .ok () ∧ f.unstored = f.current ++ g.unstored := by
  unfold Flush.answer at h
  split at h
  · cases h
  · split at h
    · cases h
    · rename_i hl
      cases h
      refine ⟨rfl, ?_⟩
      rw [Flush.unstored, hl, List.flatten_cons]
      rfl

/-- A flush that goes on gives storage the next batch. -/
theorem Flush.later_of_waiting {f g : Flush α} {r : Except Storage.Error Unit}
    (h : f.answer r = .waiting g) : f.later = g.current :: g.later ∧ g.total = f.total := by
  unfold Flush.answer at h
  split at h
  · cases h
  · split at h
    · cases h
    · rename_i hl
      cases h
      exact ⟨hl, rfl⟩

/-- A flush that goes on has stored one batch more. -/
theorem Flush.stored_of_waiting {f g : Flush α} {r : Except Storage.Error Unit}
    (h : f.answer r = .waiting g) : g.stored = f.current :: f.stored := by
  unfold Flush.answer at h
  split at h
  · cases h
  · split at h
    · cases h
    · cases h
      rfl

/-- A flush whose batch is stored ends if that was the last one. -/
theorem Flush.later_of_ended {f : Flush α} {o : Outcome α} (h : f.answer (.ok ()) = .ended o) :
    f.later = [] := by
  simp only [Flush.answer] at h
  split at h
  · rename_i last
    exact last
  · cases h

/-- A flush that has stored all has given storage the whole split. -/
theorem Flush.Cuts.split_of_ended {f : Flush α} {o : Outcome α} {items : List α} {groups : Nat}
    (h : f.Cuts items groups)
    (ended : f.answer (.ok ()) = .ended o) :
    split items groups = .ok (f.stored.reverse ++ [f.current]) := by
  rw [h.split_eq, Flush.later_of_ended ended]

/-- A flush ends when its last batch is stored, or with all that is left when one is refused. -/
theorem Flush.answer_ended {f : Flush α} {r : Except Storage.Error Unit} {o : Outcome α}
    (h : f.answer r = .ended o) :
    (r = .ok () ∧ f.unstored = f.current ∧ o = ⟨f.total, [], none⟩) ∨
      ∃ e, r = .error e ∧ o = ⟨f.total, f.unstored, some (.persist f.current.length e)⟩ := by
  unfold Flush.answer at h
  split at h
  · rename_i e
    cases h
    exact Or.inr ⟨e, rfl, rfl⟩
  · split at h
    · rename_i hl
      cases h
      refine Or.inl ⟨rfl, ?_, rfl⟩
      rw [Flush.unstored, hl, List.flatten_nil, List.append_nil]
    · cases h

end OfferService.Batch
