import OfferService.Proofs.Ticker.Moves

/-
  OfferService.Proofs.Ticker.Rest

  When the task of a ticker is at rest, which is when it has nothing to do but to wait. At each
  moment it comes to rest after a few moves, whatever the clock has done before: a tick that comes
  much too late is not made up for, and one that is hardly late is followed by few others.
-/
namespace OfferService.Ticker

variable {t : Ticker} {s u : Scene} {a : Action} {as : List Action} {es new : List Event}
  {d now deadline : Nat}

theorem period_of_step (h : step s a = some (u, new)) : u.ticker.period = s.ticker.period := by
  cases move_cases h <;> rfl

theorem period_of_path (h : Path step s as es u) : u.ticker.period = s.ticker.period :=
  h.invariant (P := fun _ _ u => u.ticker.period = s.ticker.period) rfl
    fun _ ih hstep => (period_of_step hstep).trans ih

/-! ## What the task can do -/

theorem step_of_move (moves : s.ticker.move s.now = some t) : step s .task =
    some ({ s with ticker := t }, if s.ticker.count < t.count then [.ticked s.now] else []) := by
  show (s.ticker.move s.now).map _ = _
  rw [moves]
  rfl

theorem step_task (moves : s.ticker.move s.now = some t) (count : t.count = s.ticker.count) :
    step s .task = some ({ s with ticker := t }, []) := by
  rw [step_of_move moves, count, if_neg (Nat.lt_irrefl _)]

theorem move_of_endless (starting : t.task = .starting) (endless : t.period = .longest) :
    t.move now = some { t with task := .failed } := by
  unfold Ticker.move
  rw [starting, endless]

theorem move_of_starting (starting : t.task = .starting) (period : t.period = .millis d) :
    t.move now = some { t with task := .sleeping (now + d) } := by
  unfold Ticker.move
  rw [starting, period]

theorem move_of_stopping (sleeping : t.task = .sleeping deadline) (asked : t.stopping = true) :
    t.move now = some { t with task := .ended } := by
  unfold Ticker.move
  rw [sleeping]
  exact if_pos asked

/-- A task that has just started has something to do. -/
theorem not_starting_of_settled (settled : t.move now = none) : t.task ≠ .starting := by
  intro starting
  cases hperiod : t.period with
  | millis d =>
    rw [move_of_starting starting hperiod] at settled
    cases settled
  | longest =>
    rw [move_of_endless starting hperiod] at settled
    cases settled

/-- So has a task that sleeps, and is to end. -/
theorem unasked_of_settled (settled : t.move now = none) (sleeping : t.task = .sleeping deadline) :
    t.stopping = false := by
  cases asked : t.stopping with
  | false => rfl
  | true =>
    rw [move_of_stopping sleeping asked] at settled
    cases settled

/-- A task that sleeps, and has nothing to do, waits for a later moment. -/
theorem lt_of_settled (settled : t.move now = none) (sleeping : t.task = .sleeping deadline) :
    now < deadline := by
  have unasked := unasked_of_settled settled sleeping
  unfold Ticker.move at settled
  simp only [sleeping, unasked, Bool.false_eq_true, if_false] at settled
  split at settled
  · cases settled
  · rename_i early
    exact Nat.lt_of_not_le early

theorem isDown_iff : t.isDown = true ↔ t.task = .ended ∨ t.task = .failed := by
  unfold Ticker.isDown
  rw [Bool.or_eq_true, decide_eq_true_iff, decide_eq_true_iff]

/-- A task that is there, and is to end, is down when it has nothing to do. -/
theorem isDown_of_settled (settled : t.move now = none) (asked : t.stopping = true)
    (there : t.task ≠ .absent) : t.isDown = true := by
  rw [isDown_iff]
  cases htask : t.task with
  | absent => exact absurd htask there
  | starting => exact absurd htask (not_starting_of_settled settled)
  | sleeping deadline =>
    rw [unasked_of_settled settled htask] at asked
    cases asked
  | ended => exact Or.inl rfl
  | failed => exact Or.inr rfl

/-- A task that is down has nothing to do. -/
theorem settled_of_isDown (down : t.isDown = true) : t.move now = none := by
  unfold Ticker.move
  rcases isDown_iff.mp down with ended | failed
  · rw [ended]
  · rw [failed]

/-! ## Coming to rest -/

/-- A bound on the moves of a task at a moment. -/
def unrest (now : Nat) (t : Ticker) : Nat :=
  match t.task with
  | .starting => 2
  | .sleeping deadline =>
    if t.stopping ∨ deadline + tolerance < now then 1 else now + 1 - deadline
  | _ => 0

theorem unrest_le (now : Nat) (t : Ticker) : unrest now t ≤ tolerance + 1 := by
  have htolerance : tolerance = 5 := rfl
  unfold unrest
  split
  · omega
  · split
    · omega
    · omega
  · omega

theorem unrest_sleeping (sleeping : t.task = .sleeping deadline) :
    unrest now t =
      if t.stopping ∨ deadline + tolerance < now then 1 else now + 1 - deadline := by
  rw [unrest, sleeping]

/-- Each move of the task brings it closer to having nothing to do. -/
theorem unrest_lt {t' : Ticker} (moves : t.move now = some t')
    (positive : 0 < t.period.toMillis) : unrest now t' < unrest now t := by
  have htolerance : tolerance = 5 := rfl
  unfold Ticker.move at moves
  split at moves
  · rename_i starting endless
    cases moves
    show 0 < unrest now t
    rw [unrest, starting]
    exact Nat.zero_lt_two
  · rename_i d starting period
    cases moves
    have hstart : unrest now t = 2 := by rw [unrest, starting]
    rw [unrest_sleeping rfl, hstart]
    split <;> omega
  · rename_i deadline sleeping
    rw [unrest_sleeping sleeping]
    split at moves
    · rename_i asked
      cases moves
      rw [if_pos (Or.inl asked)]
      exact Nat.zero_lt_one
    · rename_i unasked
      split at moves
      · rename_i due
        cases moves
        rw [unrest_sleeping rfl]
        simp only [unasked, Bool.false_eq_true, false_or]
        unfold nextDeadline
        -- A tick that is late is not made up for, and ticks that are hardly late are few.
        by_cases late : deadline + tolerance < now
        · rw [if_pos late, if_pos late, if_neg (by omega)]
          omega
        · rw [if_neg late, if_neg late, if_neg (by omega)]
          omega
      · cases moves
  · cases moves

/-- At each moment, a ticker's task has nothing left to do after a few moves. -/
theorem exists_settled (s : Scene) (positive : 0 < s.ticker.period.toMillis) :
    ∃ n new t, n ≤ tolerance + 1 ∧ t.move s.now = none ∧
      Path step s (List.replicate n .task) new { s with ticker := t } := by
  suffices h : ∀ bound (s : Scene), 0 < s.ticker.period.toMillis → unrest s.now s.ticker ≤ bound →
      ∃ n new t, n ≤ bound ∧ t.move s.now = none ∧
        Path step s (List.replicate n .task) new { s with ticker := t } from
    h _ s positive (unrest_le s.now s.ticker)
  intro bound
  induction bound with
  | zero =>
    intro s positive hbound
    refine ⟨0, [], s.ticker, Nat.le_refl _, ?_, .refl⟩
    cases hmove : s.ticker.move s.now with
    | none => rfl
    | some t =>
      have hless := unrest_lt hmove positive
      omega
  | succ bound ih =>
    intro s positive hbound
    cases hmove : s.ticker.move s.now with
    | none => exact ⟨0, [], s.ticker, Nat.zero_le _, hmove, .refl⟩
    | some t =>
      have hless := unrest_lt hmove positive
      have hstep := step_of_move hmove
      have hperiod := period_of_step hstep
      obtain ⟨n, later, t', hn, hsettled, hpath⟩ := ih { s with ticker := t }
        (hperiod ▸ positive) (by show unrest s.now t ≤ bound; omega)
      exact ⟨n + 1, _, t', Nat.succ_le_succ hn, hsettled, (Path.single hstep).trans hpath⟩

end OfferService.Ticker
