import OfferService.Proofs.Ticker.Session

/-
  OfferService.Proofs.Ticker.Schedule

  When a ticker fires. Let it be started at the moment `b`, with the period `d`. However the clock
  goes on, the task never waits for an earlier moment than the one at which the next tick is due by
  the steady schedule `b + d`, `b + 2 * d` and so on; so no tick comes early. If the clock never
  jumps, the task waits for just that moment, and the clock is never past it; so every tick comes
  at its moment, and whenever the task has nothing left to do the ticks are all that are due.

  What is said of a whole run is kept by each action. Nothing is asked of those who follow the
  streams: what they do leaves the ticker and the clock alone.
-/
namespace OfferService.Ticker

variable {p : Period} {t : Ticker} {s u : Scene} {a : Action} {as : List Action}
  {es new before later : List Event} {e : Event} {d b : Nat}

/-! ## No tick comes early -/

/-- What holds of the elements of a list at their places holds after one more is added. -/
theorem forall_getElem?_concat {α : Type} {P : Nat → α → Prop} {xs : List α} {x : α}
    (h : ∀ k y, xs[k]? = some y → P k y) (hx : P xs.length x) (k : Nat) (y : α)
    (hy : (xs ++ [x])[k]? = some y) : P k y := by
  rcases Nat.lt_trichotomy k xs.length with hlt | rfl | hgt
  · rw [List.getElem?_append_left hlt] at hy
    exact h k y hy
  · rw [List.getElem?_concat_length] at hy
    exact Option.some.inj hy ▸ hx
  · have hlength : (xs ++ [x]).length ≤ k := by
      rw [List.length_append]
      exact hgt
    rw [List.getElem?_eq_none hlength] at hy
    cases hy

/-- Each tick is due a period after the one before. -/
theorem due_succ (b n d : Nat) : b + (n + 1) * d = b + n * d + d := by
  rw [Nat.add_mul, Nat.one_mul, Nat.add_assoc]

theorem counted_of_step (counted : s.ticker.count = (ticks es).length)
    (hstep : step s a = some (u, new)) : u.ticker.count = (ticks (es ++ new)).length := by
  rw [count_of_step hstep, counted, ticks_append, List.length_append]

/-- After a ticker was started at the moment `b`, it has fired no tick early, and its task does not
    wait for too early a moment. -/
structure Unhurried (d b : Nat) (es : List Event) (s : Scene) : Prop where
  period : s.ticker.period = .millis d
  counted : s.ticker.count = (ticks es).length
  late : ∀ k moment, (ticks es)[k]? = some moment → b + (k + 1) * d ≤ moment
  passed : b + s.ticker.count * d ≤ s.now
  deadline : ∀ deadline, s.ticker.task = .sleeping deadline →
    b + (s.ticker.count + 1) * d ≤ deadline

theorem le_nextDeadline {deadline now span : Nat} (h : deadline ≤ now) :
    deadline + span ≤ nextDeadline deadline now span := by
  unfold nextDeadline
  split
  · exact Nat.add_le_add_right h span
  · exact Nat.le_refl _

/-- Whatever fires no tick, and has the task wait for no new moment, changes nothing about it. -/
theorem Unhurried.of_silent (h : Unhurried d b es s) (silent : ticks new = [])
    (period : u.ticker.period = s.ticker.period) (count : u.ticker.count = s.ticker.count)
    (now : s.now ≤ u.now)
    (task : ∀ deadline, u.ticker.task = .sleeping deadline → s.ticker.task = .sleeping deadline) :
    Unhurried d b (es ++ new) u := by
  have hticks : ticks (es ++ new) = ticks es := by rw [ticks_append, silent, List.append_nil]
  constructor
  · rw [period, h.period]
  · rw [hticks, count, h.counted]
  · rw [hticks]
    exact h.late
  · rw [count]
    exact Nat.le_trans h.passed now
  · rw [count]
    exact fun deadline hsleeping => h.deadline deadline (task deadline hsleeping)

theorem Unhurried.step (h : Unhurried d b es s) (hstep : step s a = some (u, new)) :
    Unhurried d b (es ++ new) u := by
  have hcounted := counted_of_step h.counted hstep
  cases move_cases hstep with
  | start => exact h.of_silent rfl rfl rfl (Nat.le_refl _) nofun
  | die => exact h.of_silent rfl rfl rfl (Nat.le_refl _) nofun
  | finish => exact h.of_silent rfl rfl rfl (Nat.le_refl _) nofun
  | drop =>
    refine h.of_silent rfl rfl rfl (Nat.le_refl _) fun deadline hsleeping => ?_
    unfold Ticker.drop at hsleeping
    split at hsleeping
    · cases hsleeping
    · exact hsleeping
  | @settle d' starting period =>
    -- The first tick is due a period from now.
    obtain rfl : d' = d := Period.millis.inj (period.symm.trans h.period)
    refine ⟨h.period, hcounted, ?_, h.passed, fun deadline hsleeping => ?_⟩
    · rw [List.append_nil]
      exact h.late
    · obtain rfl := TickerTask.sleeping.inj hsleeping
      show b + (s.ticker.count + 1) * d' ≤ s.now + d'
      rw [due_succ]
      exact Nat.add_le_add_right h.passed d'
  | @tick deadline sleeping unasked due =>
    have hdue := h.deadline deadline sleeping
    refine ⟨h.period, hcounted, ?_, Nat.le_trans hdue due, fun deadline' hsleeping => ?_⟩
    · rw [ticks_append]
      refine forall_getElem?_concat h.late ?_
      rw [← h.counted]
      exact Nat.le_trans hdue due
    · obtain rfl := TickerTask.sleeping.inj hsleeping
      show b + (s.ticker.count + 1 + 1) * d ≤ _
      rw [h.period]
      calc b + (s.ticker.count + 1 + 1) * d = b + (s.ticker.count + 1) * d + d := due_succ b _ d
        _ ≤ deadline + d := Nat.add_le_add_right hdue d
        _ ≤ nextDeadline deadline s.now d := le_nextDeadline due
  | wait => exact h.of_silent rfl rfl rfl (Nat.le_add_right _ _) fun _ hsleeping => hsleeping
  | jump => exact h.of_silent rfl rfl rfl (Nat.le_add_right _ _) fun _ hsleeping => hsleeping
  | _ => exact h.of_silent rfl rfl rfl (Nat.le_refl _) fun _ hsleeping => hsleeping

/-- At a moment, there were no more ticks than periods have passed. -/
theorem Unhurried.count_le (h : Unhurried d b es s) (positive : 0 < d) :
    s.ticker.count ≤ (s.now - b) / d := by
  rw [Nat.le_div_iff_mul_le positive]
  have hpassed := h.passed
  omega

/-! ## Every tick is on time -/

/-- After a ticker was started at the moment `b`, and while the clock does not jump, it has fired
    every tick at its moment, and its task waits for that of the next one. -/
structure Punctual (d b : Nat) (es : List Event) (s : Scene) : Prop where
  period : s.ticker.period = .millis d
  counted : s.ticker.count = (ticks es).length
  begun : s.ticker.phase ≠ .created
  onTime : ∀ k moment, (ticks es)[k]? = some moment → moment = b + (k + 1) * d
  starting : s.ticker.task = .starting → s.now = b + s.ticker.count * d
  sleeping : ∀ deadline, s.ticker.task = .sleeping deadline →
    deadline = b + (s.ticker.count + 1) * d ∧ s.now ≤ deadline

/-- Whatever fires no tick, and leaves the clock alone and what the task waits for, changes nothing
    about it. -/
theorem Punctual.of_silent (h : Punctual d b es s) (silent : ticks new = [])
    (period : u.ticker.period = s.ticker.period) (count : u.ticker.count = s.ticker.count)
    (phase : u.ticker.phase ≠ .created) (now : u.now = s.now)
    (task : u.ticker.task = s.ticker.task ∨ u.ticker.isDown = true) :
    Punctual d b (es ++ new) u := by
  have hticks : ticks (es ++ new) = ticks es := by rw [ticks_append, silent, List.append_nil]
  have hup {v : TickerTask} (up : v ≠ .ended ∧ v ≠ .failed) (hv : u.ticker.task = v) :
      s.ticker.task = v := by
    rcases task with same | down
    · rw [← same, hv]
    · rcases isDown_iff.mp down with ended | failed
      · exact absurd (hv.symm.trans ended) up.1
      · exact absurd (hv.symm.trans failed) up.2
  constructor
  · rw [period, h.period]
  · rw [hticks, count, h.counted]
  · exact phase
  · rw [hticks]
    exact h.onTime
  · rw [count, now]
    exact fun hstarting => h.starting (hup (by simp) hstarting)
  · rw [count, now]
    exact fun deadline hsleeping => h.sleeping deadline (hup (by simp) hsleeping)

theorem Punctual.step (h : Punctual d b es s) (hstep : step s a = some (u, new))
    (steady : ∀ span, .jumped span ∉ new) : Punctual d b (es ++ new) u := by
  have hcounted := counted_of_step h.counted hstep
  cases move_cases hstep with
  | start _ created => exact absurd created h.begun
  | endClose => exact h.of_silent rfl rfl rfl nofun rfl (Or.inl rfl)
  | drop =>
    refine h.of_silent rfl rfl rfl h.begun rfl ?_
    unfold Ticker.drop Ticker.isDown
    split
    · exact Or.inr rfl
    · exact Or.inl rfl
  | die => exact h.of_silent rfl rfl rfl h.begun rfl (Or.inr rfl)
  | finish => exact h.of_silent rfl rfl rfl h.begun rfl (Or.inr rfl)
  | @settle d' starting period =>
    obtain rfl : d' = d := Period.millis.inj (period.symm.trans h.period)
    have hnow := h.starting starting
    refine ⟨h.period, hcounted, h.begun, ?_, nofun, fun deadline hsleeping => ?_⟩
    · rw [List.append_nil]
      exact h.onTime
    · obtain rfl := TickerTask.sleeping.inj hsleeping
      refine ⟨?_, Nat.le_add_right _ _⟩
      show s.now + d' = b + (s.ticker.count + 1) * d'
      rw [hnow, due_succ]
  | @tick deadline sleeping unasked due =>
    -- The clock is not past the moment, and not before it: it is there.
    obtain ⟨hdeadline, hbefore⟩ := h.sleeping deadline sleeping
    have hnow : s.now = deadline := Nat.le_antisymm hbefore due
    refine ⟨h.period, hcounted, h.begun, ?_, nofun, fun deadline' hsleeping => ?_⟩
    · rw [ticks_append]
      refine forall_getElem?_concat h.onTime ?_
      rw [← h.counted, hnow, hdeadline]
    · obtain rfl := TickerTask.sleeping.inj hsleeping
      show nextDeadline deadline s.now s.ticker.period.toMillis = b + (s.ticker.count + 1 + 1) * d ∧
        s.now ≤ nextDeadline deadline s.now s.ticker.period.toMillis
      have hpunctual : ¬ deadline + tolerance < deadline := by omega
      rw [hnow, h.period, nextDeadline, if_neg hpunctual, Period.toMillis]
      refine ⟨?_, Nat.le_add_right _ _⟩
      rw [due_succ b (s.ticker.count + 1), ← hdeadline]
  | @wait span settled inTime =>
    have hticks : ticks (es ++ [.waited span]) = ticks es := by
      rw [ticks_append]
      exact List.append_nil _
    refine ⟨h.period, hcounted, h.begun, ?_, fun hstarting => ?_, fun deadline hsleeping => ?_⟩
    · rw [hticks]
      exact h.onTime
    · exact absurd hstarting (not_starting_of_settled settled)
    · exact ⟨(h.sleeping deadline hsleeping).1, inTime deadline hsleeping⟩
  | @jump span => exact absurd List.mem_cons_self (steady span)
  | _ => exact h.of_silent rfl rfl rfl h.begun rfl (Or.inl rfl)

/-- The task is there, and nobody has asked it to end. -/
structure Working (d : Nat) (s : Scene) : Prop where
  period : s.ticker.period = .millis d
  unasked : s.ticker.stopping = false
  alive : s.ticker.task = .starting ∨ ∃ deadline, s.ticker.task = .sleeping deadline

theorem Working.step (h : Working d s) (hstep : step s a = some (u, new))
    (kept : .closeBegan ∉ new ∧ .dropped ∉ new) : Working d u := by
  have hperiod := (period_of_step hstep).trans h.period
  cases move_cases hstep with
  | start => exact ⟨hperiod, h.unasked, Or.inl rfl⟩
  | beginClose => exact absurd List.mem_cons_self kept.1
  | drop => exact absurd List.mem_cons_self kept.2
  | die _ endless => cases h.period.symm.trans endless
  | finish _ asked => cases h.unasked.symm.trans asked
  | settle => exact ⟨hperiod, h.unasked, Or.inr ⟨_, rfl⟩⟩
  | tick => exact ⟨hperiod, h.unasked, Or.inr ⟨_, rfl⟩⟩
  | _ => exact ⟨hperiod, h.unasked, h.alive⟩

/-- When a task that nobody has asked to end has nothing to do, all ticks that are due have come. -/
theorem Punctual.count_eq (h : Punctual d b es s) (working : Working d s)
    (settled : s.ticker.move s.now = none) (passed : b + s.ticker.count * d ≤ s.now) :
    s.ticker.count = (s.now - b) / d := by
  rcases working.alive with starting | ⟨deadline, sleeping⟩
  · exact absurd starting (not_starting_of_settled settled)
  · have hlater := lt_of_settled settled sleeping
    rw [(h.sleeping deadline sleeping).1] at hlater
    exact (Nat.div_eq_of_lt_le (by omega) (by omega)).symm

/-! ## No tick after the end, and none before the beginning -/

/-- A ticker that was asked to end fires no more. -/
theorem ticks_of_stopping (h : step s a = some (u, new)) (asked : s.ticker.stopping = true) :
    u.ticker.stopping = true ∧ ticks new = [] := by
  cases move_cases h with
  | beginClose => exact ⟨rfl, rfl⟩
  | drop => exact ⟨rfl, rfl⟩
  | tick _ unasked =>
    rw [asked] at unasked
    cases unasked
  | _ => exact ⟨asked, rfl⟩

theorem ticks_after_end (h : Path step s as (before ++ e :: later) u)
    (ending : e = .closeBegan ∨ e = .dropped) : ticks later = [] := by
  obtain ⟨bs, v, a, w, cs, -, now, onward⟩ := exists_of_event h
  have asked : w.ticker.stopping = true := by
    rcases ending with rfl | rfl
    · cases move_cases now
      rfl
    · cases move_cases now
      rfl
  refine (onward.invariant (P := fun _ es u => u.ticker.stopping = true ∧ ticks es = [])
    ⟨asked, rfl⟩ ?_).2
  intro _ es w _ x new _ ih hstep
  obtain ⟨hasked, hnone⟩ := ticks_of_stopping hstep ih.1
  refine ⟨hasked, ?_⟩
  rw [ticks_append, ih.2, hnone]
  rfl

/-- When a ticker is started, it has not fired, and its task is about to begin. -/
theorem exists_of_started (hnew : Ticker.new p = .ok t)
    (h : Path step { ticker := t } as (before ++ .started b :: later) s) :
    ∃ u cs, u.now = b ∧ u.ticker = { period := p, phase := .running, task := .starting } ∧
      ticks before = [] ∧ Path step u cs later s := by
  obtain ⟨bs, u, a, v, cs, hither, now, onward⟩ := exists_of_event h
  have hcoherent := coherent_of_path hnew hither
  have hcount := count_of_path hither
  cases move_cases now with
  | start free created =>
    rcases hcoherent.untouched created with ⟨hticker, -⟩ | ⟨-, gone⟩
    · rw [hticker, (new_eq hnew).1, Nat.zero_add] at hcount
      refine ⟨{ u with ticker := { u.ticker with phase := .running, task := .starting } }, cs, rfl,
        ?_, List.length_eq_zero_iff.mp hcount.symm, onward⟩
      rw [hticker]
    · cases free.symm.trans gone

/-! ## Whole runs -/

/-- A ticker that was started at the moment `b` with a period of `d` milliseconds keeps time. -/
structure KeepsTime (d b : Nat) (later : List Event) (s : Scene) : Prop where
  neverEarly : ∀ k moment, (ticks later)[k]? = some moment → b + (k + 1) * d ≤ moment
  bounded : s.ticker.count ≤ (s.now - b) / d
  onTime : (∀ span, .jumped span ∉ later) →
    ∀ k moment, (ticks later)[k]? = some moment → moment = b + (k + 1) * d
  /-- When the task has nothing left to do, all ticks that are due have come. -/
  complete : (∀ span, .jumped span ∉ later) → .closeBegan ∉ later → .dropped ∉ later →
    s.ticker.move s.now = none → s.ticker.count = (s.now - b) / d

theorem keepsTime_of_started (positive : 0 < d) (started : u.now = b)
    (hticker : u.ticker = { period := .millis d, phase := .running, task := .starting })
    (h : Path step u as es s) : KeepsTime d b es s := by
  have hunhurried : Unhurried d b es s := by
    refine h.invariant (P := fun _ es s => Unhurried d b es s) ?_ fun _ h hstep => h.step hstep
    refine ⟨by rw [hticker], by rw [hticker]; rfl, nofun, ?_, ?_⟩
    · rw [hticker, started, Nat.zero_mul]
      exact Nat.le_refl _
    · rw [hticker]
      nofun
  have hpunctual : (∀ span, .jumped span ∉ es) → Punctual d b es s := by
    refine h.invariant (P := fun _ es s => (∀ span, .jumped span ∉ es) → Punctual d b es s)
      (fun _ => ?_) ?_
    · refine ⟨by rw [hticker], by rw [hticker]; rfl, by rw [hticker]; nofun, nofun, ?_, ?_⟩
      · rw [hticker, started, Nat.zero_mul]
        exact fun _ => rfl
      · rw [hticker]
        nofun
    · intro _ es s a v new _ ih hstep steady
      exact (ih fun span hmem => steady span (List.mem_append_left _ hmem)).step hstep
        fun span hmem => steady span (List.mem_append_right _ hmem)
  have hworking : .closeBegan ∉ es ∧ .dropped ∉ es → Working d s := by
    refine h.invariant (P := fun _ es s => .closeBegan ∉ es ∧ .dropped ∉ es → Working d s)
      (fun _ => ?_) ?_
    · exact ⟨by rw [hticker], by rw [hticker], Or.inl (by rw [hticker])⟩
    · intro _ es s a v new _ ih hstep kept
      rw [List.mem_append, List.mem_append, not_or, not_or] at kept
      obtain ⟨⟨hopen, hopen'⟩, hheld, hheld'⟩ := kept
      exact (ih ⟨hopen, hheld⟩).step hstep ⟨hopen', hheld'⟩
  exact ⟨hunhurried.late, hunhurried.count_le positive, fun steady => (hpunctual steady).onTime,
    fun steady kept kept' settled =>
      (hpunctual steady).count_eq (hworking ⟨kept, kept'⟩) settled hunhurried.passed⟩

/-- What is known of the ticks of a ticker after the events `es`, in the state `s`. -/
structure Timely (p : Period) (es : List Event) (s : Scene) : Prop where
  /-- The count is the number of ticks. -/
  counted : s.ticker.count = (ticks es).length
  unstarted : starts es = [] → ticks es = []
  /-- Nor is the start itself a tick. -/
  started : ∀ d before b later, p = .millis d → es = before ++ .started b :: later →
    ticks before = [] ∧ KeepsTime d b later s
  endless : p = .longest → ticks es = []
  ended : ∀ before e later, es = before ++ e :: later → e = .closeBegan ∨ e = .dropped →
    ticks later = []
  /-- At each moment, the task has nothing left to do after a few moves. -/
  settles : ∃ n new t, n ≤ tolerance + 1 ∧ t.move s.now = none ∧
    Path step s (List.replicate n .task) new { s with ticker := t }

theorem timely_of_path (hnew : Ticker.new p = .ok t) (h : Path step { ticker := t } as es s) :
    Timely p es s := by
  have positive := positive_of_new hnew
  have hperiod := period_of_path h
  have hlife := coherent_of_path hnew h
  have hcount := count_of_path h
  obtain ⟨rfl, -⟩ := new_eq hnew
  rw [Nat.zero_add] at hcount
  refine ⟨hcount, fun hnone => ?_, ?_, ?_, ?_, ?_⟩
  · have created : s.ticker.phase = .created := by
      refine Decidable.byContradiction fun begun => ?_
      have hstarts := hlife.starts
      rw [hnone, if_neg begun] at hstarts
      cases hstarts
    rw [← List.length_eq_zero_iff, ← hcount]
    rcases hlife.untouched created with ⟨hticker, -⟩ | ⟨hticker, -⟩ <;> rw [hticker]
  · rintro d before b later rfl rfl
    obtain ⟨u, cs, hnow, hticker, hnone, hpath⟩ := exists_of_started hnew h
    exact ⟨hnone, keepsTime_of_started positive hnow hticker hpath⟩
  · rintro rfl
    exact (endless_of_path hnew h).ticks
  · rintro before e later rfl ending
    exact ticks_after_end h ending
  · exact exists_settled s (hperiod ▸ positive)

/-- A ticker never fires early and never without cause: however its holder, its task, those who
    follow its streams and the clock take turns, its ticks come at the end of a period at the
    earliest, and at that very moment if the clock does not jump. Every session is such a run, in
    which the clock jumps only on request. -/
theorem ticks_keep_time (hnew : Ticker.new p = .ok t) :
    (∀ as es s, Path step { ticker := t } as es s → Timely p es s) ∧
      ∀ rs log s, Path Session.reply (Session.new t) rs log s → Session.Proper rs →
        ∃ holder as es, Path step { ticker := t } as es (Session.scene holder s) ∧
          Session.Exchanges log (talk es) ∧
          ∀ span, .jumped span ∈ es → (.jump span, .done) ∈ log := by
  refine ⟨fun as es s => timely_of_path hnew, fun rs log s h proper => ?_⟩
  obtain ⟨as, es, hpath, hlog⟩ := Session.exists_path hnew h proper
  exact ⟨_, as, es, hpath, hlog, fun span jumped =>
    hlog.of_jumped (List.mem_filter.mpr ⟨jumped, rfl⟩)⟩

/-- A ticker with a period of ten milliseconds is started at the moment 3. The clock waits for two
    ticks, then jumps past two more, of which only one is made up for, and the ticker is closed just
    when the next one is due. -/
theorem ticks_keep_time_late_tick :
    let t : Ticker := { period := .millis 10 }
    let as : List Action := [.wait 3, .start, .listen, .task, .wait 10, .task, .wait 10, .task,
      .tell 0, .jump 27, .task, .wait 10, .beginClose, .task, .endClose, .tell 0, .tell 0]
    let later : List Event := [.opened 0 0, .waited 10, .ticked 13, .waited 10, .ticked 23,
      .told 0 (.tick 2), .jumped 27, .ticked 50, .waited 10, .closeBegan, .closed,
      .told 0 (.tick 3), .told 0 .ended]
    Ticker.new (.millis 10) = .ok t ∧
      ∃ s, Path step { ticker := t } as ([.waited 3] ++ .started 3 :: later) s ∧
        ticks later = [13, 23, 50] ∧ s.now = 60 ∧ s.ticker.count = 3 ∧ KeepsTime 10 3 later s := by
  intro t as later
  have hpath : Path step { ticker := t } as ([.waited 3] ++ .started 3 :: later) _ :=
    path_of_follow rfl
  have hnew : Ticker.new (.millis 10) = .ok t := rfl
  have htimely := (ticks_keep_time hnew).1 _ _ _ hpath
  exact ⟨hnew, _, hpath, rfl, rfl, rfl, (htimely.started 10 _ 3 _ rfl rfl).2⟩

end OfferService.Ticker
