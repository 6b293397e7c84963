import OfferService.Proofs.Batch.Length
import OfferService.Proofs.Saver.Conservation
import Mathlib.GroupTheory.GroupAction.Ring

/-
  OfferService.Proofs.Saver.Bounds

  How much a saver holds, and how long the batches are that it gives to storage. What a flush leaves
  behind is cut anew together with offers that came later, so the bound on batches is not that of
  one flush: it is the bound on the buffer that every flush starts from, and the length of a batch
  grows with that of the buffer.
-/
namespace OfferService.Saver

/-! ## The offers that the event loop has -/

/-- The event loop has no more offers than the capacity. -/
theorem Core.Sound.kept_length_le {k : Core} (hk : k.Sound) : k.kept.length ≤ k.capacity := by
  cases hloop : k.loop with
  | flushing why f after =>
    -- What the flush has not stored yet is a part of what was in the buffer.
    rw [Core.kept_of_flushing hk hloop]
    obtain ⟨-, items, hcut, hle, -⟩ := hk.busy_of_flushing hloop
    have hlen := congrArg List.length hcut.stored_append_unstored
    rw [List.length_append] at hlen
    omega
  | _ =>
    have calm : k.loop.flush? = none := by rw [hloop]; rfl
    rw [Core.kept_of_calm calm]
    exact (hk.calm calm).1

/-- No more offers are shown than the capacity, during a flush either. -/
theorem Core.Sound.shown_le {k : Core} (hk : k.Sound) : k.shown ≤ k.capacity := by
  cases hflush : k.loop.flush? with
  | none =>
    obtain ⟨hle, hshown⟩ := hk.calm hflush
    omega
  | some f =>
    obtain ⟨-, items, -, hle, hshown⟩ := hk.busy f hflush
    omega

/-! ## Batches -/

/-- The batch is not empty, and no longer than a batch of a full buffer. -/
def Fits (capacity groups : Nat) (batch : List Offer) : Prop :=
  batch ≠ [] ∧ batch.length ≤ capacity ⌈/⌉ groups

/-- With more groups than places in the buffer, a batch is a single offer. -/
theorem Fits.length_eq_one {capacity groups : Nat} {batch : List Offer}
    (h : Fits capacity groups batch) (hc : 0 < capacity) (hg : capacity ≤ groups) :
    batch.length = 1 := by
  have hle := h.2
  have hpos : 0 < batch.length := List.length_pos_iff.mpr h.1
  rw [Batch.ceilDiv_eq_one hc hg] at hle
  omega

/-- The batch that storage is given fits, whatever flush it is of. -/
theorem Core.Step.fits_of_callStarted {asked : Bool} {k k' : Core} {es : List Event}
    {batch : List Offer} (hk : k.Sound) (h : Core.Step asked k es k')
    (hmem : .callStarted batch ∈ es) : Fits k.capacity k.groups batch := by
  have hg := hk.groups_pos
  cases h with
  | rest quiet => exact absurd hmem (quiet.not_mem rfl)
  | @fill at_ c o f idle alive last cut whole =>
    have hb : batch = f.current := by simpa using hmem
    rw [hb]
    exact cut.current_fits hg (by rw [List.length_append]; exact Nat.le_of_eq last)
  | @flush why at_ after f occasion idle cut whole =>
    have hb : batch = f.current := by simpa using hmem
    rw [hb]
    exact cut.current_fits hg (hk.calm_of_idle idle).1
  | @proceed why f g after r busy answered =>
    -- The next batch is of the split that the flush began with.
    have hb : batch = g.current := by simpa using hmem
    obtain ⟨-, items, hcut, hle, -⟩ := hk.busy_of_flushing busy
    rw [hb]
    exact (hcut.answer answered).current_fits hg hle
  | _ => simp at hmem

/-! ## Whole runs -/

section

variable {capacity groups : Nat} {ticker : Ticker} {s₀ s : State} {as : List Action}
  {es : List Event}

/-- Every batch that storage was given in a run fits. -/
theorem fits_of_callStarted_of_path {batch : List Offer} (h : Path step s₀ as es s)
    (hnew : new capacity groups ticker = .ok s₀) (hmem : .callStarted batch ∈ es) :
    Fits capacity groups batch := by
  induction h with
  | refl => cases hmem
  | tail hrun hstep ih =>
    rcases List.mem_append.mp hmem with hold | hnow
    · exact ih hold
    · have ht := coherent_of_path hrun (coherent_of_new hnew)
      obtain ⟨hcapacity, hgroups⟩ := settings_eq_of_path hrun hnew
      have hfits := (ht.core_step hstep).fits_of_callStarted ht.sound hnow
      rw [← hcapacity, ← hgroups]
      exact hfits

/-- In every run of a saver, whoever moves when and whichever calls to storage fail: the flush under
    way and the buffer together hold no more offers than the capacity, and no more are shown; the
    number that is shown is that of the buffer except during a flush; and every batch that storage
    was given is not empty and no longer than the capacity over the number of groups, rounded up,
    which is one offer if there are more groups than places. -/
theorem capacity_is_hard_bound (hnew : new capacity groups ticker = .ok s₀)
    (h : Path step s₀ as es s) :
    (s.loop.unstored ++ s.buffer).length ≤ capacity ∧ s.shown ≤ capacity ∧
      (s.loop.flush? = none → s.shown = s.buffer.length) ∧
      ∀ batch, .callStarted batch ∈ es →
        batch ≠ [] ∧ batch.length ≤ capacity ⌈/⌉ groups ∧
          (capacity < groups → batch.length = 1) := by
  have hsound := (coherent_of_path h (coherent_of_new hnew)).sound
  have hcapacity : s.core.capacity = capacity := (settings_eq_of_path h hnew).1
  have hkept := hsound.kept_length_le
  have hshown := hsound.shown_le
  rw [hcapacity] at hkept hshown
  refine ⟨hkept, hshown, fun calm => (hsound.calm calm).2, ?_⟩
  intro batch hmem
  have hfits := fits_of_callStarted_of_path h hnew hmem
  obtain ⟨hc, -, -⟩ := new_eq_ok hnew
  exact ⟨hfits.1, hfits.2, fun hg => hfits.length_eq_one hc (Nat.le_of_lt hg)⟩

end

/-- A full buffer is flushed in batches of two; the second is refused, and is cut anew, with two
    offers more, when the buffer is full again. -/
theorem capacity_is_hard_bound_cut_anew :
    let s₀ : State := { capacity := 3, groups := 2, ticker := { period := .millis 1000 } }
    let offer (n : UInt64) : Offer := .fresh n 1 1
    let as : List Action := [.init, .save 0 (offer 1), .loop, .save 1 (offer 2), .loop,
      .save 2 (offer 3), .loop, .answer (.ok ()), .answer (.error .zeroPageSize),
      .save 3 (offer 4), .loop, .save 4 (offer 5), .loop]
    new 3 2 { period := .millis 1000 } = .ok s₀ ∧
      ∃ es s, Path step s₀ as es s ∧ s.shown = 3 ∧ s.buffer = [] ∧
        .callStarted [offer 3, offer 4] ∈ es ∧
        (s.loop.unstored ++ s.buffer).length ≤ 3 ∧ [offer 3, offer 4].length ≤ 3 ⌈/⌉ 2 := by
  intro s₀ offer as
  have hnew : new 3 2 { period := .millis 1000 } = .ok s₀ := rfl
  have hend : (follow step s₀ as).map (fun m => (m.1.shown, m.1.buffer,
      decide (.callStarted [offer 3, offer 4] ∈ m.2))) = some (3, [], true) := by
    decide +kernel
  obtain ⟨⟨s, es⟩, hfollow, hm⟩ := Option.map_eq_some_iff.mp hend
  simp only [Prod.mk.injEq, decide_eq_true_eq] at hm
  obtain ⟨hshown, hbuffer, hcall⟩ := hm
  have hrun := path_of_follow hfollow
  obtain ⟨hkept, -, -, hbatches⟩ := capacity_is_hard_bound hnew hrun
  exact ⟨hnew, es, s, hrun, hshown, hbuffer, hcall, hkept, (hbatches _ hcall).2.1⟩

end OfferService.Saver
