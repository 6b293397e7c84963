import OfferService.Proofs.Storage.Paging

/-
  OfferService.Proofs.Storage.Flags

  What the flags of a window tell about the items before and after it. They belong to the page whose
  number is told, and that is rounded up from what is passed over. So there is a page before the
  window if and only if items precede it, but there is a next one only if items remain after the
  whole page. A window that begins where a page begins is that page. Any other one ends before the
  page does, by less than its size, and items in between are not announced.
-/
namespace OfferService

namespace Window

variable {w : Window}

/-- Where the page ends whose number is told. -/
def pageEnd (w : Window) : Nat := w.skip.toNat ⌈/⌉ w.take.toNat * w.take.toNat + w.take.toNat

/-- A window ends with its page or before it. -/
theorem end_le_pageEnd (some : w.take ≠ 0) : w.skip.toNat + w.take.toNat ≤ w.pageEnd := by
  have hle : w.skip.toNat ≤ w.take.toNat * (w.skip.toNat ⌈/⌉ w.take.toNat) :=
    (ceilDiv_le_iff_le_mul (toNat_take_pos some)).mp (Nat.le_refl _)
  rw [Nat.mul_comm] at hle
  exact Nat.add_le_add_right hle _

/-- It ends less than its size before. -/
theorem pageEnd_lt (some : w.take ≠ 0) :
    w.pageEnd < w.skip.toNat + w.take.toNat + w.take.toNat := by
  have hpos := toNat_take_pos some
  have hdiv := Nat.div_mul_le_self (w.skip.toNat + w.take.toNat - 1) w.take.toNat
  rw [← Nat.ceilDiv_eq_add_pred_div] at hdiv
  unfold pageEnd
  omega

/-- Where a page begins, the window is that page. -/
theorem pageEnd_of_dvd (some : w.take ≠ 0) (aligned : w.take.toNat ∣ w.skip.toNat) :
    w.pageEnd = w.skip.toNat + w.take.toNat := by
  obtain ⟨k, hk⟩ := aligned
  rw [pageEnd, ceilDiv_of_aligned (k := k) some (by rw [hk, Nat.mul_comm]), hk, Nat.mul_comm]

/-- What the flags of a window in a list of so many items tell. -/
structure Flagged (w : Window) (total : UInt64) (info : PageInfo) : Prop where
  previous : info.hasPrevious = true ↔ 0 < w.skip.toNat
  next : info.hasNext = true ↔ w.pageEnd < total.toNat
  remaining : info.hasNext = true → w.skip.toNat + w.take.toNat < total.toNat
  aligned : w.take.toNat ∣ w.skip.toNat →
    (info.hasNext = true ↔ w.skip.toNat + w.take.toNat < total.toNat)

theorem flagged_place (perPage : UInt32) (total : UInt64) (some : w.take ≠ 0)
    (numbered : w.HasNumber) :
    w.Flagged total (w.place perPage total numbered) where
  previous := hasPrevious_place perPage total some numbered
  next := hasNext_iff perPage total some numbered
  remaining := by
    rw [hasNext_iff perPage total some numbered]
    exact Nat.lt_of_le_of_lt (end_le_pageEnd some)
  aligned h := by
    rw [← pageEnd_of_dvd some h]
    exact hasNext_iff perPage total some numbered

end Window

namespace Storage

open Query Table

/-- What somebody who is shown a window knows of the live rows after it. -/
structure Announced (s : Store) (w : Window) (info : PageInfo) : Prop where
  more : info.hasNext = true → s.table.live.drop (w.skip.toNat + w.take.toNat) ≠ []
  fewer : info.hasNext = false →
    (s.table.live.drop (w.skip.toNat + w.take.toNat)).length < w.take.toNat
  last : info.hasNext = false → w.take.toNat ∣ w.skip.toNat →
    s.table.live.drop (w.skip.toNat + w.take.toNat) = []

namespace Store

variable {s : Store} {w : Window} {offers : List Offer} {info : PageInfo}

/-- A window that is shown has a size, and begins at a number of a column. -/
theorem window_of_answer (ready : s.access = .ready)
    (answer : ((list w).on s).1 = .ok (offers, info)) :
    w.take ≠ 0 ∧ w.skip.toNat ≤ maxColumn := by
  have some : w.take ≠ 0 := by
    intro empty
    rw [list_of_empty empty] at answer
    cases answer
  refine ⟨some, ?_⟩
  by_contra large
  rw [list_of_tooLarge ready some large] at answer
  cases answer

theorem announced_of_answer (ready : s.access = .ready)
    (count : s.table.live.length ≤ maxColumn)
    (answer : ((list w).on s).1 = .ok (offers, info)) : Announced s w info := by
  obtain ⟨some, fits⟩ := window_of_answer ready answer
  rw [list_on ready some fits] at answer
  cases answer
  have hflags := Window.flagged_place (UInt32.ofNat (page s.table w).length)
    (UInt64.ofNat s.table.live.length) some (hasNumber_of_column (column_of_le fits))
  have hlive := toNat_length_live count
  have hend := Window.pageEnd_lt some
  have hrest : (s.table.live.drop (w.skip.toNat + w.take.toNat)).length =
      s.table.live.length - (w.skip.toNat + w.take.toNat) := List.length_drop
  have hnone {flag : Bool} {p : Prop} (h : flag = true ↔ p) (last : flag = false) : ¬ p := by
    rw [← h, last]
    nofun
  constructor
  · intro more hnil
    have hremain := hflags.remaining more
    rw [hnil, List.length_nil] at hrest
    omega
  · intro last
    have hall := hnone hflags.next last
    have hpos := Window.toNat_take_pos some
    omega
  · intro last aligned
    have hall := hnone (hflags.aligned aligned) last
    exact List.drop_of_length_le (by omega)

end Store

/-- The flags of every window that shows something and passes over less than the largest number.
    After every history, whoever is shown a window with a next page has not seen the last live row
    yet. Without a next page it was the last one, if the window begins where a page begins; else
    fewer rows than a page holds come after it. -/
theorem flags_tell_pages (ops : List Operation)
    (counted : (∀ op ∈ ops, op.isCall = true) ∨ (after {} ops).table.live.length ≤ maxColumn) :
    (∀ (w : Window) (perPage : UInt32) (total : UInt64), w.take ≠ 0 →
      w.skip.toNat < UInt64.size - 1 →
        ∃ info, w.info perPage total = .ok info ∧ w.Flagged total info) ∧
    ∀ (w : Window) (offers : List Offer) (info : PageInfo),
      ((Store.list w).on (after {} ops)).1 = .ok (offers, info) →
        Announced (after {} ops) w info := by
  refine ⟨fun w perPage total some fits => ?_, fun w offers info answer => ?_⟩
  · have numbered := Window.hasNumber_of_lt fits
    exact ⟨_, Window.info_of_hasNumber numbered perPage total, Window.flagged_place _ _ some numbered⟩
  · refine Store.announced_of_answer (ready_after ops) ?_ answer
    rcases counted with calls | count
    · exact (sound_after calls sound_empty).length_live_le
    · exact count

/-- Of four offers one is passed over and two are shown, the second and the third. There is no next
    page, and one offer remains; from the third on there is no next page, and none remains. -/
theorem flags_tell_pages_one_of_four :
    let offer (n : UInt64) : Offer := .fresh n 1 1
    let ops : List Operation := [.createAll [offer 1, offer 2, offer 3, offer 4]]
    let w (skip : UInt64) : Window := { take := 2, skip }
    (∀ op ∈ ops, op.isCall = true) ∧ ((after {} ops).table.live.drop 3).length = 1 ∧
      ∃ second third, (w 1).info 2 4 = .ok second ∧ (w 2).info 2 4 = .ok third ∧
        second.hasNext = false ∧ (w 1).Flagged 4 second ∧ (w 2).Flagged 4 third ∧
        Announced (after {} ops) (w 1) second ∧ Announced (after {} ops) (w 2) third := by
  intro offer ops w
  have hcalls : ∀ op ∈ ops, op.isCall = true := by
    decide
  obtain ⟨hflags, hshown⟩ := flags_tell_pages ops (.inl hcalls)
  obtain ⟨second, hsecond, hflagged⟩ := hflags (w 1) 2 4 (by decide) (by decide)
  obtain ⟨third, hthird, hflagged'⟩ := hflags (w 2) 2 4 (by decide) (by decide)
  have hinfo := Window.info_of_hasNumber (w := w 1) (by decide) 2 4
  have hinfo' := Window.info_of_hasNumber (w := w 2) (by decide) 2 4
  cases hinfo.symm.trans hsecond
  cases hinfo'.symm.trans hthird
  refine ⟨hcalls, by decide +kernel, _, _, hinfo, hinfo', by decide, hflagged, hflagged', ?_, ?_⟩
  · exact hshown (w 1) [{ offer 2 with id := 2 }, { offer 3 with id := 3 }] _ (by decide +kernel)
  · exact hshown (w 2) [{ offer 3 with id := 3 }, { offer 4 with id := 4 }] _ (by decide +kernel)

/-- So it is not every window that tells whether items remain after it: five of sixteen items are
    passed over and ten are shown, and the last one is not announced. -/
theorem not_every_window_announces_rest :
    ¬ ∀ (w : Window) (perPage : UInt32) (total : UInt64), w.take ≠ 0 →
      w.skip.toNat < UInt64.size - 1 → ∃ info, w.info perPage total = .ok info ∧
        (info.hasPrevious = true ↔ 0 < w.skip.toNat) ∧
        (info.hasNext = true ↔ w.skip.toNat + w.take.toNat < total.toNat) := by
  intro hall
  let w : Window := { take := 10, skip := 5 }
  obtain ⟨info, hinfo, -, hnext⟩ := hall w 10 16 (by decide) (by decide)
  cases (Window.info_of_hasNumber (w := w) (by decide) 10 16).symm.trans hinfo
  exact absurd (hnext.mpr (by decide)) (by decide)

end Storage

end OfferService
