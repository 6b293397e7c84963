import OfferService.Proofs.Page

/-
  OfferService.Proofs.Page.Exact

  Which pages can be numbered. A page is never of size zero, and rounding a quotient up never leaves
  the 64 bits, so the number of pages is exact for every window and every list. Only counting from
  one can be too much: passing over as many items as there are numbers, one on a page, leads to a
  page whose number has 65 bits. Nothing is told of that page, for the computation is given up.
-/
namespace OfferService.Window

variable {w : Window}

/-- The divisions of page arithmetic: the divisor is a number, where a quotient is rounded up there
    is room for it, and the quotients are exact. -/
structure Divides (w : Window) (total : UInt64) : Prop where
  divisor : w.pageSize.toNat = max w.take.toNat 1
  roomForPages : total % w.pageSize ≠ 0 → (total / w.pageSize).toNat + 1 < UInt64.size
  roomForPassed : w.skip % w.pageSize ≠ 0 → (w.skip / w.pageSize).toNat + 1 < UInt64.size
  pages : (divCeil total w.pageSize).toNat = total.toNat ⌈/⌉ max w.take.toNat 1
  passed : (divCeil w.skip w.pageSize).toNat = w.skip.toNat ⌈/⌉ max w.take.toNat 1

/-- What is told of the page is exact. -/
structure Exact (w : Window) (total : UInt64) (info : PageInfo) : Prop where
  page : info.page.toNat = w.skip.toNat ⌈/⌉ max w.take.toNat 1 + 1
  totalPages : info.totalPages.toNat = total.toNat ⌈/⌉ max w.take.toNat 1

/-- Does the window pass over all that can be passed over, with one item on a page? -/
def IsBeyondPages (w : Window) : Prop := w.take.toNat ≤ 1 ∧ w.skip.toNat = UInt64.size - 1

theorem pageSize_pos (w : Window) : w.pageSize ≠ 0 := by
  intro hzero
  have hsize := toNat_pageSize_eq_max w
  rw [hzero] at hsize
  have hone := Nat.le_max_right w.take.toNat 1
  rw [← hsize] at hone
  exact absurd hone (by decide)

theorem toNat_divCeil_pageSize (w : Window) (n : UInt64) :
    (divCeil n w.pageSize).toNat = n.toNat ⌈/⌉ max w.take.toNat 1 := by
  rw [toNat_divCeil (pageSize_pos w), toNat_pageSize_eq_max]

theorem divides (w : Window) (total : UInt64) : w.Divides total where
  divisor := toNat_pageSize_eq_max w
  roomForPages := toNat_div_succ_lt
  roomForPassed := toNat_div_succ_lt
  pages := toNat_divCeil_pageSize w total
  passed := toNat_divCeil_pageSize w w.skip

/-- There is a next number after the pages passed over, unless there are as many as numbers. -/
theorem hasNumber_iff (w : Window) : w.HasNumber ↔ ¬ w.IsBeyondPages := by
  have hsize : UInt64.size = 2 ^ 64 := rfl
  have hskip := w.skip.toNat_lt
  have hpos : 0 < max w.take.toNat 1 := Nat.le_max_right _ _
  -- All that is asked of the quotient is whether it is as large as the largest number.
  rw [HasNumber, toNat_divCeil_pageSize, ← Nat.lt_sub_iff_add_lt, hsize,
    Nat.lt_iff_le_pred (by decide), ceilDiv_le_iff_le_mul hpos, IsBeyondPages, hsize]
  rcases Nat.lt_or_ge 1 w.take.toNat with hmany | hfew
  · rw [Nat.max_eq_left (Nat.le_of_lt hmany)]
    have htwice := Nat.mul_le_mul_right (2 ^ 64 - 1 - 1) hmany
    omega
  · rw [Nat.max_eq_right hfew]
    omega

theorem exact_place (w : Window) (perPage : UInt32) (total : UInt64) (numbered : w.HasNumber) :
    w.Exact total (w.place perPage total numbered) where
  page := by rw [toNat_page, toNat_divCeil_pageSize]
  totalPages := toNat_divCeil_pageSize w total

/-- For every window, also an empty one, and every list: no division fails or leaves the 64 bits.
    What is told of the page is exact, unless the window is beyond all pages; then, and only then,
    the sum that would be the number of the page overflows. -/
theorem page_exact_iff (w : Window) (perPage : UInt32) (total : UInt64) :
    w.Divides total ∧
      (¬ w.IsBeyondPages ↔ ∃ info, w.info perPage total = .ok info ∧ w.Exact total info) ∧
      (w.IsBeyondPages ↔ w.info perPage total = .error .add) := by
  refine ⟨divides w total, ?_⟩
  by_cases numbered : w.HasNumber
  · have within := (hasNumber_iff w).mp numbered
    have hinfo := info_of_hasNumber numbered perPage total
    refine ⟨⟨fun _ => ⟨_, hinfo, exact_place w perPage total numbered⟩, fun _ => within⟩,
      ⟨fun beyond => absurd beyond within, fun overflows => ?_⟩⟩
    rw [hinfo] at overflows
    cases overflows
  · have beyond := not_not.mp (mt (hasNumber_iff w).mpr numbered)
    have hinfo := info_of_not_hasNumber numbered perPage total
    refine ⟨⟨fun within => absurd beyond within, ?_⟩, ⟨fun _ => hinfo, fun _ => beyond⟩⟩
    rintro ⟨info, hok, -⟩
    rw [hinfo] at hok
    cases hok

/-- The largest number of items passed over: pages of two are numbered, pages of one, and of none,
    are not. -/
theorem page_exact_iff_largest_skip :
    let w (take : UInt32) : Window := { take, skip := 18446744073709551615 }
    (w 0).IsBeyondPages ∧ (w 0).info 0 7 = .error .add ∧ ¬ (w 2).IsBeyondPages ∧
      ∃ info, (w 2).info 0 7 = .ok info ∧ info.page.toNat = 2 ^ 63 + 1 ∧
        info.totalPages.toNat = 4 := by
  intro w
  have hbeyond : (w 0).IsBeyondPages := ⟨by decide, by decide⟩
  have hwithin : ¬ (w 2).IsBeyondPages := fun h => absurd h.1 (by decide)
  obtain ⟨-, -, hoverflow⟩ := page_exact_iff (w 0) 0 7
  obtain ⟨-, hnumbered, -⟩ := page_exact_iff (w 2) 0 7
  obtain ⟨info, hinfo, hpage, htotal⟩ := hnumbered.mp hwithin
  have hhalf : (w 2).skip.toNat ⌈/⌉ max (w 2).take.toNat 1 + 1 = 2 ^ 63 + 1 := by
    decide
  have hfour : (7 : UInt64).toNat ⌈/⌉ max (w 2).take.toNat 1 = 4 := by
    decide
  exact ⟨hbeyond, hoverflow.mp hbeyond, hwithin, info, hinfo, hpage.trans hhalf,
    htotal.trans hfour⟩

/-- So not every page has its number. -/
theorem not_every_page_has_number :
    ¬ ∀ (w : Window) (perPage : UInt32) (total : UInt64), ∃ info,
      w.info perPage total = .ok info ∧ w.Exact total info := by
  intro hall
  obtain ⟨info, hinfo, -⟩ := hall { take := 1, skip := 18446744073709551615 } 0 0
  exact absurd hinfo nofun

end OfferService.Window
