import OfferService.Proofs.Ticker.Rest

/-
  OfferService.Proofs.Ticker.Lifecycle

  The life of a ticker: it is started at most once, closed at most once while it runs, and nothing
  else changes how far it has come. Until it is started it is as it was made. Once it is asked to
  end, its task is down after two of its own moves at most, and down it stays; so a call to close
  that has begun returns.
-/
namespace OfferService.Ticker

variable {p : Period} {t : Ticker} {s u : Scene} {a : Action} {as : List Action}
  {es new before later : List Event} {e : Event}

/-- A new ticker has a period, and nothing has happened to it. -/
theorem new_eq (hnew : Ticker.new p = .ok t) : t = { period := p } ∧ p ≠ .millis 0 := by
  unfold Ticker.new at hnew
  split at hnew
  · cases hnew
  · rename_i positive
    cases hnew
    exact ⟨rfl, positive⟩

theorem positive_of_new (hnew : Ticker.new p = .ok t) : 0 < p.toMillis := by
  obtain ⟨-, hp⟩ := new_eq hnew
  cases p with
  | millis d => exact Nat.pos_of_ne_zero fun hd => hp (congrArg _ hd)
  | longest => decide

/-- Letting go of a ticker ends what was not begun, and nothing else. -/
theorem task_drop (t : Ticker) : t.drop.task ≠ .absent := by
  unfold Ticker.drop
  split
  · exact nofun
  · assumption

theorem isDown_drop (down : t.isDown = true) : t.drop.isDown = true := by
  unfold Ticker.drop Ticker.isDown
  split
  · rfl
  · exact down

/-! ## What holds of a life -/

/-- How far a ticker has come, and what must have happened until then. -/
structure Coherent (p : Period) (es : List Event) (s : Scene) : Prop where
  /-- A ticker that was not started is as it was made, or as it was let go of. -/
  untouched : s.ticker.phase = .created →
    s.ticker = { period := p } ∧ s.holder = .free ∨
      s.ticker = { period := p, stopping := true, task := .ended } ∧ s.holder = .gone
  begun : s.ticker.phase ≠ .created → s.ticker.task ≠ .absent
  closing : s.holder = .closing → s.ticker.phase = .running ∧ s.ticker.stopping = true
  down : s.ticker.phase = .closed → s.ticker.isDown = true
  asked : .closeBegan ∈ es ∨ .dropped ∈ es → s.ticker.stopping = true
  starts : (starts es).length = if s.ticker.phase = .created then 0 else 1
  closes : es.count .closed = if s.ticker.phase = .closed then 1 else 0

theorem coherent_new : Coherent p [] { ticker := { period := p } } :=
  ⟨fun _ => Or.inl ⟨rfl, rfl⟩, fun begun => absurd rfl begun, nofun, nofun,
    fun h => h.elim nofun nofun, rfl, rfl⟩

namespace Coherent

/-- Only a ticker that runs has a task that is about to do something. -/
theorem running (h : Coherent p es s) (there : s.ticker.task ≠ .absent)
    (up : s.ticker.isDown = false) : s.ticker.phase = .running := by
  cases hphase : s.ticker.phase with
  | running => rfl
  | created =>
    rcases h.untouched hphase with ⟨hnew, -⟩ | ⟨hgone, -⟩
    · rw [hnew] at there
      exact absurd rfl there
    · rw [hgone] at up
      cases up
  | closed =>
    rw [h.down hphase] at up
    cases up

/-- Whatever leaves the ticker and its holder alone changes nothing about it. -/
theorem of_same (h : Coherent p es s) (ticker : u.ticker = s.ticker) (holder : u.holder = s.holder)
    (ends : .closeBegan ∉ new ∧ .dropped ∉ new) (starts : Ticker.starts new = [])
    (closes : .closed ∉ new) : Coherent p (es ++ new) u := by
  constructor
  · rw [ticker, holder]
    exact h.untouched
  · rw [ticker]
    exact h.begun
  · rw [ticker, holder]
    exact h.closing
  · rw [ticker]
    exact h.down
  · rw [ticker, List.mem_append, List.mem_append, or_iff_left ends.1, or_iff_left ends.2]
    exact h.asked
  · rw [ticker, starts_append, starts, List.append_nil]
    exact h.starts
  · rw [ticker, List.count_append, List.count_eq_zero_of_not_mem closes, Nat.add_zero]
    exact h.closes

/-- What the task does, it does in a ticker that runs. -/
theorem of_task {task : TickerTask} {count : Nat} (h : Coherent p es s)
    (there : s.ticker.task ≠ .absent) (up : s.ticker.isDown = false) (stays : task ≠ .absent)
    (ends : .closeBegan ∉ new ∧ .dropped ∉ new) (starts : Ticker.starts new = [])
    (closes : .closed ∉ new) :
    Coherent p (es ++ new) { s with ticker := { s.ticker with task, count } } := by
  have hrunning := h.running there up
  constructor
  · intro created
    cases hrunning.symm.trans created
  · exact fun _ => stays
  · exact h.closing
  · intro closed
    cases hrunning.symm.trans closed
  · rw [List.mem_append, List.mem_append, or_iff_left ends.1, or_iff_left ends.2]
    exact h.asked
  · rw [starts_append, starts, List.append_nil]
    exact h.starts
  · rw [List.count_append, List.count_eq_zero_of_not_mem closes, Nat.add_zero]
    exact h.closes

/-- A ticker that was started, or was asked to end, has a task. -/
theorem there (h : Coherent p es s) (begun : s.ticker.phase ≠ .created ∨ s.ticker.stopping = true) :
    s.ticker.task ≠ .absent := by
  by_cases created : s.ticker.phase = .created
  · have asked := begun.resolve_left fun begun => begun created
    rcases h.untouched created with ⟨hnew, -⟩ | ⟨hgone, -⟩
    · rw [hnew] at asked
      cases asked
    · rw [hgone]
      nofun
  · exact h.begun created

theorem step (h : Coherent p es s) (hstep : step s a = some (u, new)) :
    Coherent p (es ++ new) u := by
  have hstarts := h.starts
  have hcloses := h.closes
  cases move_cases hstep with
  | start free created =>
    rw [if_pos created] at hstarts
    rw [created] at hcloses
    refine ⟨nofun, nofun, fun closing => ?_, nofun, ?_, ?_, ?_⟩
    · cases free.symm.trans closing
    · simpa using h.asked
    · rw [starts_append, List.length_append, hstarts]
      rfl
    · rw [List.count_append, hcloses]
      rfl
  | beginClose free running =>
    refine ⟨fun created => ?_, h.begun, fun _ => ⟨running, rfl⟩, h.down, fun _ => rfl, ?_, ?_⟩
    · cases running.symm.trans created
    · rw [starts_append, List.length_append, hstarts]
      rfl
    · rw [List.count_append, hcloses]
      rfl
  | endClose closing down =>
    obtain ⟨running, -⟩ := h.closing closing
    rw [running] at hstarts hcloses
    refine ⟨nofun, fun _ => h.begun (by rw [running]; decide), nofun, fun _ => down,
      fun ends => h.asked (by simpa using ends), ?_, ?_⟩
    · rw [starts_append, List.length_append, hstarts]
      rfl
    · rw [List.count_append, hcloses]
      rfl
  | drop free =>
    refine ⟨fun created => Or.inr ⟨?_, rfl⟩, fun begun => ?_, nofun, fun closed => ?_,
      fun _ => rfl, ?_, ?_⟩
    · rcases h.untouched created with ⟨hnew, -⟩ | ⟨-, gone⟩
      · rw [hnew]
        rfl
      · cases free.symm.trans gone
    · exact task_drop s.ticker
    · exact isDown_drop (h.down closed)
    · rw [starts_append, List.length_append, hstarts]
      rfl
    · rw [List.count_append, hcloses]
      rfl
  -- The task moves only while the ticker runs, so how far the ticker has come stays as it is.
  | die starting =>
    exact h.of_task (by rw [starting]; decide) (by rw [Ticker.isDown, starting]; rfl) (by decide)
      (by simp) rfl (by simp)
  | settle starting =>
    exact h.of_task (by rw [starting]; decide) (by rw [Ticker.isDown, starting]; rfl) (by simp)
      (by simp) rfl (by simp)
  | finish sleeping =>
    exact h.of_task (by rw [sleeping]; simp) (by rw [Ticker.isDown, sleeping]; rfl) (by decide)
      (by simp) rfl (by simp)
  | tick sleeping =>
    exact h.of_task (by rw [sleeping]; simp) (by rw [Ticker.isDown, sleeping]; rfl) (by simp)
      (by simp) rfl (by simp)
  | _ => exact h.of_same rfl rfl (by simp) rfl (by simp)

theorem path (h : Coherent p es s) (hpath : Path Ticker.step s as new u) :
    Coherent p (es ++ new) u := by
  refine hpath.invariant (P := fun _ new u => Coherent p (es ++ new) u)
    (by rw [List.append_nil]; exact h) ?_
  intro _ old u _ v now _ ih hstep
  rw [← List.append_assoc]
  exact ih.step hstep

end Coherent

theorem coherent_of_path (hnew : Ticker.new p = .ok t) (h : Path step { ticker := t } as es s) :
    Coherent p es s := by
  obtain ⟨rfl, -⟩ := new_eq hnew
  exact coherent_new.path h

/-! ## The end -/

/-- A task that is down stays down, and fires no more. -/
theorem isDown_of_step (h : Coherent p es s) (hstep : step s a = some (u, new))
    (down : s.ticker.isDown = true) : u.ticker.isDown = true ∧ u.ticker.count = s.ticker.count := by
  have hup {task : TickerTask} (same : s.ticker.task = task)
      (up : (task = .ended || task = .failed) = false) : False := by
    rw [Ticker.isDown, same, up] at down
    cases down
  cases move_cases hstep with
  | start free created =>
    -- A ticker that is down although it was never started was let go of.
    rcases h.untouched created with ⟨hnew, -⟩ | ⟨-, gone⟩
    · rw [hnew] at down
      cases down
    · cases free.symm.trans gone
  | drop => exact ⟨isDown_drop down, rfl⟩
  | die starting => exact (hup starting rfl).elim
  | settle starting => exact (hup starting rfl).elim
  | finish sleeping => exact (hup sleeping rfl).elim
  | tick sleeping => exact (hup sleeping rfl).elim
  | _ => exact ⟨down, rfl⟩

theorem isDown_of_path (h : Coherent p es s) (hpath : Path step s as new u)
    (down : s.ticker.isDown = true) : u.ticker.isDown = true ∧ u.ticker.count = s.ticker.count := by
  refine hpath.invariant
    (P := fun _ _ u => u.ticker.isDown = true ∧ u.ticker.count = s.ticker.count) ⟨down, rfl⟩ ?_
  intro _ old u _ v now hpath ih hstep
  obtain ⟨hdown, hcount⟩ := isDown_of_step (h.path hpath) hstep ih.1
  exact ⟨hdown, hcount.trans ih.2⟩

/-- Once the task is down, there is something to tell to every stream. -/
theorem exists_next (down : t.isDown = true) (stream : Stream) :
    ∃ signal, t.next stream = some signal := by
  unfold Ticker.next
  split
  · exact ⟨_, rfl⟩
  · exact ⟨.ended, rfl⟩

/-- The clock has no moment for the first tick after the longest period. -/
structure Endless (es : List Event) (s : Scene) : Prop where
  period : s.ticker.period = .longest
  awake : ∀ deadline, s.ticker.task ≠ .sleeping deadline
  ticks : ticks es = []

theorem Endless.step (h : Endless es s) (hstep : step s a = some (u, new)) :
    Endless (es ++ new) u := by
  have hperiod : u.ticker.period = .longest := (period_of_step hstep).trans h.period
  have hticks (silent : Ticker.ticks new = []) : Ticker.ticks (es ++ new) = [] := by
    rw [ticks_append, h.ticks, silent]
    rfl
  cases move_cases hstep with
  | start => exact ⟨hperiod, nofun, hticks rfl⟩
  | drop =>
    refine ⟨hperiod, fun deadline => ?_, hticks rfl⟩
    unfold Ticker.drop
    split
    · exact nofun
    · exact h.awake deadline
  | die => exact ⟨hperiod, nofun, hticks rfl⟩
  | settle _ period => cases h.period.symm.trans period
  | finish => exact ⟨hperiod, nofun, hticks rfl⟩
  | tick sleeping => exact absurd sleeping (h.awake _)
  | _ => exact ⟨hperiod, h.awake, hticks rfl⟩

theorem endless_of_path (hnew : Ticker.new .longest = .ok t)
    (h : Path step { ticker := t } as es s) : Endless es s := by
  obtain ⟨rfl, -⟩ := new_eq hnew
  exact h.invariant (P := fun _ es s => Endless es s) ⟨rfl, nofun, rfl⟩
    fun _ h hstep => h.step hstep

/-- A task that is there, and is to end or can never fire, is down after two of its moves at
    most. -/
theorem exists_down (there : s.ticker.task ≠ .absent)
    (ends : s.ticker.stopping = true ∨ Endless es s) :
    ∃ n task, n ≤ 2 ∧ (task = .ended ∨ task = .failed) ∧
      Path step s (List.replicate n .task) [] { s with ticker := { s.ticker with task } } := by
  cases htask : s.ticker.task with
  | absent => exact absurd htask there
  | starting =>
    cases hperiod : s.ticker.period with
    | longest =>
      exact ⟨1, .failed, by decide, Or.inr rfl,
        .single (step_task (move_of_endless htask hperiod) rfl)⟩
    | millis d =>
      have asked : s.ticker.stopping = true :=
        ends.resolve_right fun endless => nomatch hperiod.symm.trans endless.period
      have hmove : s.ticker.move s.now = _ := move_of_starting htask hperiod
      exact ⟨2, .ended, by decide, Or.inl rfl,
        (Path.single (step_task hmove rfl)).tail (step_task (move_of_stopping rfl asked) rfl)⟩
  | sleeping deadline =>
    have asked : s.ticker.stopping = true :=
      ends.resolve_right fun endless => endless.awake deadline htask
    exact ⟨1, .ended, by decide, Or.inl rfl, .single (step_task (move_of_stopping htask asked) rfl)⟩
  | ended =>
    refine ⟨0, .ended, by decide, Or.inl rfl, ?_⟩
    rw [← htask]
    exact .refl
  | failed =>
    refine ⟨0, .failed, by decide, Or.inr rfl, ?_⟩
    rw [← htask]
    exact .refl

/-! ## Whole lives -/

/-- What is known of the life of a ticker after the events `es`, in the state `s`. -/
structure OneLife (es : List Event) (s : Scene) : Prop where
  started : (starts es).length ≤ 1
  closed : es.count .closed ≤ 1
  phase : s.ticker.phase =
    if starts es = [] then .created else if .closed ∈ es then .closed else .running
  /-- A call to start that is not the first one fails, and changes nothing. -/
  start : s.holder = .free → step s .start = some (
    if s.ticker.phase = .created then
      ({ s with ticker := { s.ticker with phase := .running, task := .starting } },
        [.started s.now])
    else (s, [.refused .alreadyStarted]))
  /-- So does a call to close a ticker that does not run. -/
  close : s.holder = .free → step s .beginClose = some (
    if s.ticker.phase = .running then
      ({ s with ticker := { s.ticker with stopping := true }, holder := .closing }, [.closeBegan])
    else (s, [.refused .notRunning]))
  /-- A call to close that does not fail at once returns. -/
  returns : s.holder = .closing → ∃ n u v, n ≤ 2 ∧ Path step s (List.replicate n .task) [] u ∧
    step u .endClose = some (v, [.closed])

theorem phase_of_coherent (h : Coherent p es s) : s.ticker.phase =
    if starts es = [] then .created else if .closed ∈ es then .closed else .running := by
  have hstarts := h.starts
  have hcloses := h.closes
  cases hphase : s.ticker.phase with
  | created =>
    rw [hphase, if_pos rfl, List.length_eq_zero_iff] at hstarts
    rw [if_pos hstarts]
  | running =>
    rw [hphase, if_neg nofun] at hstarts hcloses
    rw [if_neg (List.ne_nil_of_length_eq_add_one hstarts), if_neg (List.count_eq_zero.mp hcloses)]
  | closed =>
    rw [hphase, if_neg nofun] at hstarts
    rw [hphase, if_pos rfl] at hcloses
    rw [if_neg (List.ne_nil_of_length_eq_add_one hstarts),
      if_pos (List.count_pos_iff.mp (hcloses ▸ Nat.zero_lt_one))]

theorem oneLife_of_path (hnew : Ticker.new p = .ok t) (h : Path step { ticker := t } as es s) :
    OneLife es s := by
  have hlife := coherent_of_path hnew h
  refine ⟨?_, ?_, phase_of_coherent hlife, fun free => ?_, fun free => ?_, fun closing => ?_⟩
  · rw [hlife.starts]
    split <;> decide
  · rw [hlife.closes]
    split <;> decide
  · show call s (s.ticker.start.map _) = _
    unfold call Ticker.start
    rw [if_pos free]
    by_cases created : s.ticker.phase = .created
    · rw [if_pos created, if_pos created]
      rfl
    · rw [if_neg created, if_neg created]
      rfl
  · show call s (s.ticker.beginClose.map _) = _
    unfold call Ticker.beginClose
    rw [if_pos free]
    by_cases running : s.ticker.phase = .running
    · rw [if_pos running, if_pos running]
      rfl
    · rw [if_neg running, if_neg running]
      rfl
  · obtain ⟨running, stopping⟩ := hlife.closing closing
    have ends : s.ticker.stopping = true ∨ Endless es s := Or.inl stopping
    obtain ⟨n, task, hn, htask, hpath⟩ :=
      exists_down (hlife.begun (by rw [running]; nofun)) ends
    exact ⟨n, _, _, hn, hpath, if_pos ⟨closing, isDown_iff.mpr htask⟩⟩

end OfferService.Ticker
