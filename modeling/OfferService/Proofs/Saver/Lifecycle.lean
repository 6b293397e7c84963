import OfferService.Proofs.Saver.Barrier

/-
  OfferService.Proofs.Saver.Lifecycle

  The life of a saver, from its building to its closing. How a saver stands is kept in three places:
  in what was asked of it, in whether it was asked to end, and in the phase of its ticker. `Stands`
  says how each of them follows from the events so far, whatever ticker the saver was built with.
  What the next call to initialize or to save answers is read off that.
-/
namespace OfferService

/-- The task of a ticker leaves its phase alone. -/
theorem Ticker.move_phase {t u : Ticker} {now : Nat} (h : t.move now = some u) :
    u.phase = t.phase := by
  unfold Ticker.move at h
  split at h
  · cases h; rfl
  · cases h; rfl
  · split at h
    · cases h; rfl
    · split at h
      · cases h; rfl
      · cases h
  · cases h

/-- Closing a ticker leaves its phase alone until the task has ended. -/
theorem Ticker.beginClose_phase {t u : Ticker} (h : t.beginClose = .ok u) : u.phase = t.phase := by
  unfold Ticker.beginClose at h
  split at h
  · cases h; rfl
  · cases h

theorem Ticker.phase_of_start {t u : Ticker} (h : t.start = .ok u) : t.phase = .created := by
  unfold Ticker.start at h
  split at h
  · assumption
  · cases h

namespace Saver

/-! ## What has happened at the door -/

/-- A call to initialize has succeeded. -/
def Started (es : List Event) : Prop := .initialized (.ok ()) ∈ es

/-- A call to close has begun. -/
def CloseBegun (es : List Event) : Prop := ∃ c, .closeBegan c ∈ es

section

variable {es fs : List Event}

@[simp] theorem started_append : Started (es ++ fs) ↔ Started es ∨ Started fs := List.mem_append

@[simp] theorem closeBegun_append : CloseBegun (es ++ fs) ↔ CloseBegun es ∨ CloseBegun fs := by
  simp only [CloseBegun, List.mem_append, exists_or]

theorem Indoors.not_started (h : Indoors es) : ¬ Started es := by
  intro hmem
  exact absurd (h _ hmem) nofun

theorem Indoors.not_closeBegun (h : Indoors es) : ¬ CloseBegun es := by
  rintro ⟨c, hmem⟩
  exact absurd (h _ hmem) nofun

end

/-- How the lifecycle and the ticker of a door may turn: nothing is started and no closing begins,
    the saver is started, or a closing begins. -/
inductive Door.Turn (d d' : Door) (es : List Event) : Prop
  /-- Only the caller who closes the saver changes the phase of its ticker. -/
  | plain (unstarted : ¬ Started es) (unasked : ¬ CloseBegun es)
      (lifecycle : d'.lifecycle = d.lifecycle)
      (phase : d.closing = .nobody → d'.ticker.phase = d.ticker.phase)
  | start (fresh : d.lifecycle = .created) (idle : d.ticker.phase = .created)
      (once : es.count (.initialized (.ok ())) = 1) (unasked : ¬ CloseBegun es)
      (lifecycle : d'.lifecycle = .initialized)
  | close (unstarted : ¬ Started es) (asked : CloseBegun es) (lifecycle : d'.lifecycle = .closed)

theorem Door.Step.turn {d d' : Door} {loop : Loop} {es : List Event}
    (h : Door.Step d loop es d') : Door.Turn d d' es := by
  cases h with
  | rest indoors => exact .plain indoors.not_started indoors.not_closeBegun rfl fun _ => rfl
  | tick moved =>
    exact .plain (by simp [Started]) (by simp [CloseBegun]) rfl fun _ => Ticker.move_phase moved
  | refuse => exact .plain (by simp [Started]) (by simp [CloseBegun]) rfl fun _ => rfl
  | init fresh started =>
    exact .start fresh (Ticker.phase_of_start started) (by simp)
      (by simp [CloseBegun]) rfl
  | closeFresh => exact .close (by simp [Started]) (by simp [CloseBegun]) rfl
  | closeFirst => exact .close (by simp [Started]) (by simp [CloseBegun]) rfl
  | closeLater => exact .close (by simp [Started]) (by simp [CloseBegun]) rfl
  | join joining _ closing =>
    exact .plain (by simp [Started]) (by simp [CloseBegun]) rfl
      fun _ => Ticker.beginClose_phase closing
  | joinAlone => exact .plain (by simp [Started]) (by simp [CloseBegun]) rfl fun _ => rfl
  | stop stopping =>
    refine .plain (by simp [Started]) (by simp [CloseBegun]) rfl fun nobody => ?_
    rw [nobody] at stopping
    cases stopping
  | follow => exact .plain (by simp [Started]) (by simp [CloseBegun]) rfl fun _ => rfl
  | drop => exact .plain (by simp [Started]) (by simp [CloseBegun]) rfl fun _ => rfl

/-! ## How a saver stands -/

/-- How a door stands after these events, if the ticker could be started at first or not. -/
structure Door.Stands (d : Door) (fresh : Prop) (es : List Event) : Prop where
  created : d.lifecycle = .created ↔ ¬ Started es ∧ ¬ CloseBegun es
  closed : d.lifecycle = .closed ↔ CloseBegun es
  /-- Until a saver is initialized or closed, its ticker is as it was. -/
  ticker : d.lifecycle = .created → (d.ticker.phase = .created ↔ fresh)
  permitted : Started es → fresh
  once : es.count (.initialized (.ok ())) ≤ 1

theorem Door.Stands.step {d d' : Door} {loop : Loop} {fresh : Prop} {es new : List Event}
    (h : d.Stands fresh es) (behind : Behind d loop) (hd : Door.Step d loop new d') :
    d'.Stands fresh (es ++ new) := by
  cases hd.turn with
  | plain unstarted unasked lifecycle phase =>
    have hnone : new.count (.initialized (.ok ())) = 0 := List.count_eq_zero.mpr unstarted
    refine ⟨?_, ?_, ?_, ?_, ?_⟩
    · rw [lifecycle, h.created, started_append, closeBegun_append, or_iff_left unstarted,
        or_iff_left unasked]
    · rw [lifecycle, h.closed, closeBegun_append, or_iff_left unasked]
    · rw [lifecycle]
      intro created
      -- Nobody is closing a fresh saver, so its ticker is left alone.
      rw [phase (behind.fresh created).2.2]
      exact h.ticker created
    · rw [started_append, or_iff_left unstarted]
      exact h.permitted
    · rw [List.count_append, hnone]
      exact h.once
  | start created idle once unasked lifecycle =>
    obtain ⟨unstarted, unclosed⟩ := h.created.mp created
    have hnone : es.count (.initialized (.ok ())) = 0 := List.count_eq_zero.mpr unstarted
    have hnow : Started new := List.count_pos_iff.mp (by omega)
    refine ⟨?_, ?_, ?_, ?_, ?_⟩
    · simp [lifecycle, hnow]
    · simp [lifecycle, unclosed, unasked]
    · rw [lifecycle]
      nofun
    · exact fun _ => (h.ticker created).mp idle
    · rw [List.count_append]
      omega
  | close unstarted asked lifecycle =>
    have hnone : new.count (.initialized (.ok ())) = 0 := List.count_eq_zero.mpr unstarted
    refine ⟨?_, ?_, ?_, ?_, ?_⟩
    · simp [lifecycle, asked]
    · simp [lifecycle, asked]
    · rw [lifecycle]
      nofun
    · rw [started_append, or_iff_left unstarted]
      exact h.permitted
    · rw [List.count_append, hnone]
      exact h.once

section

variable {capacity groups : Nat} {ticker : Ticker} {s₀ s : State} {as : List Action}
  {es : List Event}

end

end Saver

end OfferService
