import Mathlib.Algebra.Order.BigOperators.Group.List
import OfferService.Proofs.Batch.Length

/-
  OfferService.Proofs.Batch.Even

  A split is as even as a cut of the list can be. All its batches have one length, but for the last
  one, which may be shorter; and that length is the least that any cut into so few consecutive
  pieces can have as the length of its longest one, for pieces that are all shorter hold too little
  together. More groups never make longer batches nor fewer of them, and those beyond the number of
  the items change nothing.
-/
namespace OfferService.Batch

variable {α : Type} {items : List α} {pieces batches : List (List α)} {size groups more : Nat}

/-! ## The longest piece -/

/-- The length of the longest piece; zero if there is none. -/
def longest (pieces : List (List α)) : Nat := (pieces.map List.length).foldr max 0

theorem longest_le_iff {bound : Nat} :
    longest pieces ≤ bound ↔ ∀ piece ∈ pieces, piece.length ≤ bound := by
  induction pieces with
  | nil => simp [longest]
  | cons piece pieces ih =>
    rw [List.forall_mem_cons, ← ih]
    exact Nat.max_le

/-- Pieces hold no more together than if all were as long as the longest. -/
theorem length_flatten_le (pieces : List (List α)) :
    pieces.flatten.length ≤ pieces.length * longest pieces := by
  have hbound : ∀ n ∈ pieces.map List.length, n ≤ longest pieces := by
    intro n hn
    obtain ⟨piece, hpiece, rfl⟩ := List.mem_map.mp hn
    exact longest_le_iff.mp (Nat.le_refl _) piece hpiece
  have hsum := List.sum_le_card_nsmul _ _ hbound
  rw [List.length_map, smul_eq_mul] at hsum
  rw [List.length_flatten]
  exact hsum

/-- So of a few pieces that make up the list, one is as long as a batch. -/
theorem step_le_longest (hg : 0 < groups) (whole : pieces.flatten = items)
    (few : pieces.length ≤ groups) : step items.length groups ≤ longest pieces := by
  rcases Nat.eq_zero_or_pos items.length with hzero | hpos
  · rw [hzero, step, Nat.min_zero, Nat.div_zero]
    exact Nat.zero_le _
  · rw [step_eq_ceilDiv hpos, ceilDiv_le_iff_le_mul hg]
    calc items.length = pieces.flatten.length := by rw [whole]
      _ ≤ pieces.length * longest pieces := length_flatten_le pieces
      _ ≤ groups * longest pieces := Nat.mul_le_mul_right _ few

/-! ## Pieces of one length -/

/-- All pieces but the last are as long as was asked for. -/
theorem length_of_mem_dropLast_chunks (hs : 0 < size) {piece : List α}
    (h : piece ∈ (chunks size items).dropLast) : piece.length = size := by
  fun_induction chunks size items with
  | case1 => cases h
  | case2 first rest ih =>
    rcases Nat.lt_or_ge (size - 1) rest.length with hmore | hlast
    · -- There are items behind this piece, so it is full, and not the last.
      have hne : chunks size (rest.drop (size - 1)) ≠ [] := by
        apply chunks_ne_nil
        rw [← List.length_pos_iff, List.length_drop]
        omega
      rw [List.dropLast_cons_of_ne_nil hne] at h
      rcases List.mem_cons.mp h with rfl | hlater
      · rw [List.length_cons, List.length_take]
        omega
      · exact ih hlater
    · rw [List.drop_of_length_le hlast, chunks] at h
      cases h

/-- Pieces of one item each. -/
theorem chunks_one (items : List α) : chunks 1 items = items.map fun a => [a] := by
  induction items with
  | nil => rw [chunks, List.map_nil]
  | cons a items ih =>
    rw [chunks, List.map_cons, ← ih]
    rfl

/-! ## More groups -/

/-- A larger divisor does not make a larger quotient. -/
theorem ceilDiv_anti {n m k : Nat} (hm : 0 < m) (h : m ≤ k) : n ⌈/⌉ k ≤ n ⌈/⌉ m := by
  rw [ceilDiv_le_iff_le_mul (Nat.lt_of_lt_of_le hm h)]
  calc n ≤ m * (n ⌈/⌉ m) := le_smul_ceilDiv hm
    _ ≤ k * (n ⌈/⌉ m) := Nat.mul_le_mul_right _ h

/-- Batches of more groups are no longer. -/
theorem step_anti {n : Nat} (hg : 0 < groups) (h : groups ≤ more) :
    step n more ≤ step n groups := by
  rcases Nat.eq_zero_or_pos n with rfl | hn
  · rw [step, step, Nat.min_zero, Nat.min_zero]
  · rw [step_eq_ceilDiv hn, step_eq_ceilDiv hn]
    exact ceilDiv_anti hg h

/-- Shorter pieces are no fewer. -/
theorem length_chunks_anti {size' : Nat} (hs : 0 < size) (h : size ≤ size') (items : List α) :
    (chunks size' items).length ≤ (chunks size items).length := by
  rw [length_chunks (Nat.lt_of_lt_of_le hs h), length_chunks hs]
  exact ceilDiv_anti hs h

/-! ## The main result -/

/-- An even cut of `items` into at most `groups` batches. -/
structure Even (items : List α) (groups : Nat) (batches : List (List α)) : Prop where
  whole : batches.flatten = items
  filled : ∀ batch ∈ batches, batch ≠ []
  few : batches.length ≤ min groups items.length
  /-- Only the last batch may be shorter than the others. -/
  even : ∀ batch ∈ batches.dropLast, batch.length = step items.length groups
  longest_eq : longest batches = step items.length groups
  /-- No cut into so few consecutive pieces has a shorter longest one. -/
  optimal : ∀ pieces : List (List α), pieces.flatten = items → pieces.length ≤ groups →
    step items.length groups ≤ longest pieces

theorem even_of_split (hg : 0 < groups) (h : split items groups = .ok batches) :
    Even items groups batches := by
  have hwhole := split_flatten h
  have hgroups := length_split_le h hg
  have hchunks := split_eq_ok h
  have hstep (hi : items ≠ []) : 0 < step items.length groups :=
    step_pos (List.length_pos_iff.mpr hi) hg
  -- Of no items there is no batch.
  have hitems {batch : List α} (hb : batch ∈ batches) : items ≠ [] := by
    rintro rfl
    rw [hchunks, chunks] at hb
    cases hb
  refine ⟨hwhole, fun batch => ne_nil_of_mem_split h, Nat.le_min.mpr ⟨hgroups, ?_⟩, ?_, ?_, ?_⟩
  · by_cases hi : items = []
    · rw [hchunks, hi, chunks]
      exact Nat.zero_le _
    · rw [hchunks, length_chunks (hstep hi), ceilDiv_le_iff_le_mul (hstep hi)]
      exact Nat.le_mul_of_pos_left _ (hstep hi)
  · intro batch hb
    have hi := hitems (List.mem_of_mem_dropLast hb)
    rw [hchunks] at hb
    exact length_of_mem_dropLast_chunks (hstep hi) hb
  · refine Nat.le_antisymm (longest_le_iff.mpr fun batch hb => ?_)
      (step_le_longest hg hwhole hgroups)
    have hi := hitems hb
    rw [hchunks] at hb
    exact length_le_of_mem_chunks (hstep hi) hb
  · intro pieces whole few
    exact step_le_longest hg whole few

/-- Every list goes into any number of groups, and the batches are an even cut of it. With more
    groups the longest batch is no longer, and there are no fewer batches. With as many groups as
    items or more, each batch is a single item; that is what as many groups as items give. -/
theorem split_is_optimal (items : List α) (hg : 0 < groups) :
    ∃ batches, split items groups = .ok batches ∧ Even items groups batches ∧
      (∀ more, groups ≤ more → ∃ others, split items more = .ok others ∧
        longest others ≤ longest batches ∧ batches.length ≤ others.length) ∧
      (items.length ≤ groups → batches = items.map (fun a => [a]) ∧
        (items ≠ [] → split items items.length = .ok batches)) := by
  have hsplit := split_of_pos hg items
  have heven := even_of_split hg hsplit
  refine ⟨_, hsplit, heven, ?_, ?_⟩
  · intro more hmore
    have hpos := Nat.lt_of_lt_of_le hg hmore
    have hothers := split_of_pos hpos items
    refine ⟨_, hothers, ?_, ?_⟩
    · rw [heven.longest_eq, (even_of_split hpos hothers).longest_eq]
      exact step_anti hg hmore
    · by_cases hi : items = []
      · rw [hi, chunks]
        exact Nat.zero_le _
      · exact length_chunks_anti (step_pos (List.length_pos_iff.mpr hi) hpos)
          (step_anti hg hmore) items
  · intro hle
    by_cases hi : items = []
    · subst hi
      exact ⟨by rw [chunks, List.map_nil], fun hne => absurd rfl hne⟩
    · have hpos := List.length_pos_iff.mpr hi
      have hone : step items.length groups = 1 := by
        rw [step_eq_ceilDiv hpos, ceilDiv_eq_one hpos hle]
      have hone' : step items.length items.length = 1 := by
        rw [step_eq_ceilDiv hpos, ceilDiv_eq_one hpos (Nat.le_refl _)]
      refine ⟨by rw [hone, chunks_one], fun _ => ?_⟩
      rw [split_of_pos hpos, hone, hone']

/-- Ten items into three groups: no cut into three pieces has all of them shorter than four. -/
theorem split_is_optimal_ten_into_three :
    0 < 3 ∧ split (List.range 10) 3 = .ok [[0, 1, 2, 3], [4, 5, 6, 7], [8, 9]] ∧
      ∀ pieces : List (List Nat), pieces.flatten = List.range 10 → pieces.length ≤ 3 →
        4 ≤ longest pieces := by
  have hg : 0 < 3 := by decide
  obtain ⟨batches, hsplit, heven, -⟩ := split_is_optimal (List.range 10) hg
  have hbatches : batches = [[0, 1, 2, 3], [4, 5, 6, 7], [8, 9]] := by
    rw [split_eq_ok hsplit]
    decide +kernel
  rw [hbatches] at hsplit
  exact ⟨hg, hsplit, heven.optimal⟩

end OfferService.Batch
