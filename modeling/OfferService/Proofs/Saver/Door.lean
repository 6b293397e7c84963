import OfferService.Proofs.Saver.History
import OfferService.Proofs.Saver.Moves

/-
  OfferService.Proofs.Saver.Door

  The door of a saver: all that has to do with starting and closing it. `Door.Step` lists what any
  action can do to the door, with its events; the event loop is seen only from outside, by where it
  stands. `Move` lists the moves of all parties: after it, no proof opens the step function again.
-/
namespace OfferService.Saver

/-- Is this an event about starting, closing or dropping a saver? -/
def Event.isOfDoor : Event → Bool
  | .initialized _ | .closeBegan _ | .closeReturned _ | .dropped => true
  | _ => false

theorem Event.indoors_of_isOfLoop {e : Event} (h : e.isOfLoop = true) : e.isOfDoor = false := by
  cases e <;> first | rfl | cases h

theorem Event.indoors_of_isOfCall {e : Event} (h : e.isOfCall = true) : e.isOfDoor = false := by
  cases e <;> first | rfl | cases h

/-- None of these events is about starting, closing or dropping the saver. -/
def Indoors (es : List Event) : Prop := ∀ e ∈ es, e.isOfDoor = false

/-- What an action can do to the door while the event loop is at `loop`, and with which events. -/
inductive Door.Step (d : Door) (loop : Loop) : List Event → Door → Prop
  /-- Others move. -/
  | rest {es} (indoors : Indoors es) : Door.Step d loop es d
  | tick {now ticker log} (moved : d.ticker.move now = some ticker) :
      Door.Step d loop [.logged log] { d with ticker }
  | refuse {e} (late : d.lifecycle = .created → d.ticker.phase ≠ .created) :
      Door.Step d loop [.initialized (.error e)] d
  | init {ticker log} (fresh : d.lifecycle = .created) (started : d.ticker.start = .ok ticker) :
      Door.Step d loop [.logged log, .initialized (.ok ())]
        { d with lifecycle := .initialized, ticker }
  /-- A saver that was never initialized is closed at once. -/
  | closeFresh {c log} (fresh : d.lifecycle = .created) :
      Door.Step d loop [.closeBegan c, .logged log, .closeReturned c]
        { d with lifecycle := .closed, ticker := d.ticker.drop, shutdown := true, stopped := true }
  | closeFirst {c} (running : d.lifecycle = .initialized) :
      Door.Step d loop [.closeBegan c]
        { d with lifecycle := .closed, shutdown := true, closing := .joining c }
  | closeLater {c} (closed : d.lifecycle = .closed) :
      Door.Step d loop [.closeBegan c]
        { d with lifecycle := .closed, shutdown := true, bystanders := d.bystanders ++ [c] }
  /-- The event loop has exited: the ticker is next. -/
  | join {c ticker} (joining : d.closing = .joining c) (exited : loop = .idle .exited)
      (closing : d.ticker.beginClose = .ok ticker) :
      Door.Step d loop [] { d with ticker, closing := .stopping c }
  | joinAlone {c log} (joining : d.closing = .joining c) (exited : loop = .idle .exited) :
      Door.Step d loop [.logged log, .closeReturned c]
        { d with closing := .nobody, stopped := true }
  | stop {c log} (stopping : d.closing = .stopping c) (down : d.ticker.isDown = true) :
      Door.Step d loop [.logged log, .closeReturned c]
        { d with ticker := d.ticker.endClose, closing := .nobody, stopped := true }
  /-- A caller who waited for another one to close the saver returns. -/
  | follow {c} (stopped : d.stopped = true) (waits : c ∈ d.bystanders) :
      Door.Step d loop [.closeReturned c] { d with bystanders := d.bystanders.erase c }
  | drop : Door.Step d loop [.dropped] { d with shutdown := true, ticker := d.ticker.drop }

/-! ## The moves at the door -/

/-- The saver with another door. -/
def State.withDoor (s : State) (d : Door) : State :=
  { s with
    lifecycle := d.lifecycle, ticker := d.ticker, shutdown := d.shutdown
    stopped := d.stopped, closing := d.closing, bystanders := d.bystanders }

/-- All that starting, closing and dropping a saver and its ticker can do. -/
inductive DoorMove (s : State) : Moved → Prop
  /-- Nothing but the door changes. -/
  | move {d es} (step : Door.Step s.door s.loop es d) (quiet : Quiet es) (aside : Aside es) :
      DoorMove s (s.withDoor d, es)
  /-- The event loop is started. -/
  | start {d log stream} (step : Door.Step s.door s.loop [.logged log, .initialized (.ok ())] d)
      (fresh : s.lifecycle = .created) (started : d.lifecycle = .initialized) :
      DoorMove s ({ s.withDoor d with loop := .idle .serving, stream },
        [.logged log, .initialized (.ok ())])
  /-- No requests are let in any more. -/
  | shut {d es} (step : Door.Step s.door s.loop es d) (quiet : Quiet es) (aside : Aside es)
      (asked : d.shutdown = true) :
      DoorMove s ({ s.withDoor d with mailbox := s.mailbox.close }, es)

theorem init_cases (s : State) : DoorMove s (init s) := by
  have refuse : ∀ e, (s.lifecycle = .created → s.ticker.phase ≠ .created) →
      DoorMove s (s.withDoor s.door, [.initialized (.error e)]) := by
    intro e late
    exact .move (.refuse late) (by simp [Quiet, Event.isQuiet]) (by simp [Aside, Event.isOfDesk])
  unfold init
  split
  · rename_i fresh
    split
    · -- A ticker that does not start has been started before.
      rename_i failed
      refine refuse _ fun _ hp => ?_
      rw [Ticker.start, if_pos hp] at failed
      cases failed
    · rename_i ticker started
      have step : ∀ log, Door.Step s.door s.loop [.logged log, .initialized (.ok ())]
          { s.door with lifecycle := .initialized, ticker } := fun _ => .init fresh started
      exact .start (step _) fresh rfl
  · rename_i late
    exact refuse _ fun fresh => absurd fresh late

theorem beginClose_cases (s : State) (c : Caller) : DoorMove s (beginClose s c) := by
  unfold beginClose
  split
  · rename_i fresh
    have step : ∀ log, Door.Step s.door s.loop [.closeBegan c, .logged log, .closeReturned c]
        { s.door with
          lifecycle := .closed, ticker := s.ticker.drop, shutdown := true, stopped := true } :=
      fun _ => .closeFresh fresh
    exact .shut (step _) (by simp [Quiet, Event.isQuiet]) (by simp [Aside, Event.isOfDesk]) rfl
  · rename_i running
    have step : Door.Step s.door s.loop [.closeBegan c]
        { s.door with lifecycle := .closed, shutdown := true, closing := .joining c } :=
      .closeFirst running
    exact .move step (by simp [Quiet, Event.isQuiet]) (by simp [Aside, Event.isOfDesk])
  · rename_i closed
    have step : Door.Step s.door s.loop [.closeBegan c]
        { s.door with
          lifecycle := .closed, shutdown := true, bystanders := s.bystanders ++ [c] } :=
      .closeLater closed
    exact .move step (by simp [Quiet, Event.isQuiet]) (by simp [Aside, Event.isOfDesk])

theorem resumeClose_cases {s : State} {c : Caller} {m : Moved} (h : resumeClose s c = some m) :
    DoorMove s m := by
  unfold resumeClose at h
  split at h
  · -- The caller who closes the saver waits for the event loop, then for the ticker.
    rename_i joining
    split at h
    · rename_i exited
      split at h
      · rename_i ticker closing
        cases h
        have step : Door.Step s.door s.loop []
            { s.door with ticker, closing := .stopping c } := .join joining exited closing
        exact .move step (by simp [Quiet]) aside_nil
      · cases h
        have step : ∀ log, Door.Step s.door s.loop [.logged log, .closeReturned c]
            { s.door with closing := .nobody, stopped := true } :=
          fun _ => .joinAlone joining exited
        exact .move (step _) (by simp [Quiet, Event.isQuiet]) (by simp [Aside, Event.isOfDesk])
    · cases h
  · split at h
    · rename_i stopping
      split at h
      · rename_i down
        cases h
        have step : ∀ log, Door.Step s.door s.loop [.logged log, .closeReturned c]
            { s.door with
              ticker := s.ticker.endClose, closing := .nobody, stopped := true } :=
          fun _ => .stop stopping down
        exact .move (step _) (by simp [Quiet, Event.isQuiet]) (by simp [Aside, Event.isOfDesk])
      · cases h
    · -- All other callers wait for that one.
      split at h
      · rename_i hwait
        cases h
        have step : Door.Step s.door s.loop [.closeReturned c]
            { s.door with bystanders := s.bystanders.erase c } :=
          .follow hwait.1 (List.contains_iff_mem.mp hwait.2)
        exact .move step (by simp [Quiet, Event.isQuiet]) (by simp [Aside, Event.isOfDesk])
      · cases h

theorem drop_cases (s : State) : DoorMove s (drop s) := by
  have step : Door.Step s.door s.loop [.dropped]
      { s.door with shutdown := true, ticker := s.ticker.drop } := .drop
  exact .move step (by simp [Quiet, Event.isQuiet]) (by simp [Aside, Event.isOfDesk])

theorem ticker_cases {s : State} {now : Nat} {m : Moved} (h : step s (.ticker now) = some m) :
    DoorMove s m := by
  simp only [Saver.step, Option.map_eq_some_iff] at h
  obtain ⟨ticker, moved, h⟩ := h
  cases h
  have step : Door.Step s.door s.loop [.logged s.ticker.moveLog] { s.door with ticker } :=
    .tick moved
  exact .move step (by simp [Quiet, Event.isQuiet]) (by simp [Aside, Event.isOfDesk])

theorem DoorMove.door_step {s : State} {m : Moved} (h : DoorMove s m) :
    Door.Step s.door s.loop m.2 m.1.door := by
  cases h with
  | move step => exact step
  | start step => exact step
  | shut step => exact step

/-! ## All moves -/

/-- Whose move an action is, and what it can come to. -/
inductive Move (s : State) : Action → Moved → Prop
  | loop {m} (move : LoopMove s m) : Move s .loop m
  | answer {r m} (move : AnswerMove s r m) : Move s (.answer r) m
  | call {a m} (move : CallMove s a m) : Move s a m
  /-- The action begins no call to save. -/
  | door {a m} (other : a.begun = []) (move : DoorMove s m) : Move s a m

theorem move_cases {s : State} {a : Action} {m : Moved} (h : step s a = some m) : Move s a m := by
  cases a with
  | loop => exact .loop (loopMove_cases h)
  | answer r => exact .answer (answer_cases h)
  | init => exact .door rfl (Option.some.inj h ▸ init_cases s)
  | beginClose c => exact .door rfl (Option.some.inj h ▸ beginClose_cases s c)
  | resumeClose c => exact .door rfl (resumeClose_cases h)
  | drop => exact .door rfl (Option.some.inj h ▸ drop_cases s)
  | ticker now => exact .door rfl (ticker_cases h)
  | _ => exact .call (call_cases h rfl)

/-- All that an action can do to the door. -/
theorem door_step {s t : State} {a : Action} {es : List Event} (h : step s a = some (t, es)) :
    Door.Step s.door s.loop es t.door := by
  cases move_cases h with
  | loop move =>
    rw [show t.door = s.door from move.door_eq]
    exact .rest fun e he => Event.indoors_of_isOfLoop (move.isOfLoop he)
  | answer move =>
    rw [show t.door = s.door from move.door_eq]
    exact .rest fun e he => Event.indoors_of_isOfLoop (move.isOfLoop he)
  | call move =>
    rw [show t.door = s.door from move.door_eq]
    exact .rest fun e he => Event.indoors_of_isOfCall (move.isOfCall he)
  | door _ move => exact move.door_step

/-! ## What stays -/

/-- Nothing makes a saver a fresh one again. -/
theorem Door.Step.created {d d' : Door} {loop : Loop} {es : List Event}
    (h : Door.Step d loop es d') (hd : d'.lifecycle = .created) : d.lifecycle = .created := by
  cases h with
  | init => cases hd
  | closeFresh => cases hd
  | closeFirst => cases hd
  | closeLater => cases hd
  | _ => exact hd

/-- A saver that was asked to close stays so. -/
theorem Door.Step.shutdown {d d' : Door} {loop : Loop} {es : List Event}
    (h : Door.Step d loop es d') (hd : d.shutdown = true ∨ ∃ c, .closeBegan c ∈ es) :
    d'.shutdown = true := by
  rcases hd with hd | ⟨c, hc⟩
  · cases h <;> first | rfl | exact hd
  · cases h with
    | rest indoors => exact absurd (indoors _ hc) nofun
    | closeFresh => rfl
    | closeFirst => rfl
    | closeLater => rfl
    | drop => rfl
    | _ => simp at hc

theorem shutdown_of_closeBegan {s t : State} {as : List Action} {es : List Event}
    {c : Caller} (h : Path step s as es t) (hc : .closeBegan c ∈ es) : t.shutdown = true := by
  induction h with
  | refl => cases hc
  | tail _ hstep ih =>
    apply (door_step hstep).shutdown
    rcases List.mem_append.mp hc with hold | hnew
    · exact Or.inl (ih hold)
    · exact Or.inr ⟨c, hnew⟩

end OfferService.Saver
