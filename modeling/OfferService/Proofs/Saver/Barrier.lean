import OfferService.Proofs.Saver.Conservation
import OfferService.Proofs.Saver.Desk
import OfferService.Proofs.Saver.Gate

/-
  OfferService.Proofs.Saver.Barrier

  Closing is a barrier. No call to close returns before the event loop has taken all requests, has
  attempted its last flush and has exited, whichever caller it is and whatever the other ones do;
  and nothing is given to storage or changes there after that.
-/
namespace OfferService.Saver

/-! ## The last flush -/

/-- The flush before the exit is under way: it was before, or it begins, or it goes on to its next
    batch. -/
theorem Core.Step.of_flushing_exited {asked : Bool} {k k' : Core} {es : List Event} {why : Reason}
    {f : Batch.Flush Offer} (h : Core.Step asked k es k')
    (busy' : k'.loop = .flushing why f .exited) :
    k.loop = .flushing why f .exited ∨
      (why = .final ∧ k.loop = .idle .draining ∧ es = [.callStarted f.current]) ∨
      ∃ g r, k.loop = .flushing why g .exited ∧
        es = [.callEnded g.current r, .callStarted f.current] := by
  cases h with
  | rest => exact Or.inl busy'
  | wake => cases busy'
  | drain => cases busy'
  | refuse => exact Or.inl busy'
  | push => exact Or.inl busy'
  | fill idle alive =>
    cases busy'
    exact absurd rfl alive
  | flush occasion idle =>
    cases busy'
    cases occasion
    exact Or.inr (Or.inl ⟨rfl, idle, rfl⟩)
  | leave => cases busy'
  | @proceed why g f' after r busy =>
    cases busy'
    exact Or.inr (Or.inr ⟨g, r, busy, rfl⟩)
  | settle => cases busy'

/-- The event loop has exited: it had before, or it exits with nothing to flush, or at the end of
    its last flush. -/
theorem Core.Step.of_exited {asked : Bool} {k k' : Core} {es : List Event}
    (h : Core.Step asked k es k') (exited' : k'.loop = .idle .exited) :
    (k.loop = .idle .exited ∧ k'.buffer = k.buffer) ∨
      (es = [.exited 0] ∧ k'.buffer = []) ∨
      ∃ why f r o, k.loop = .flushing why f .exited ∧ f.answer r = .ended o ∧
        k'.buffer = o.remaining ∧
        es = [.callEnded f.current r, .flushEnded why o, .exited o.remaining.length] := by
  cases h with
  | rest => exact Or.inl ⟨exited', rfl⟩
  | wake => cases exited'
  | drain => cases exited'
  | refuse => exact Or.inl ⟨exited', rfl⟩
  | push idle alive =>
    have exited : k.loop = .idle .exited := exited'
    rw [idle] at exited
    cases exited
    exact absurd rfl alive
  | fill => cases exited'
  | flush => cases exited'
  | leave idle empty => exact Or.inr (Or.inl ⟨rfl, empty⟩)
  | proceed => cases exited'
  | @settle why f after r o busy answered =>
    cases exited'
    exact Or.inr (Or.inr ⟨why, f, r, o, busy, answered, rfl, rfl⟩)

/-- The event loop has exited, and has attempted its last flush: that has ended, or there was
    nothing left to flush. -/
def Finished (es : List Event) : Prop :=
  ∃ left, .exited left ∈ es ∧ (left = 0 ∨ ∃ o, .flushEnded .final o ∈ es)

theorem Finished.append {es : List Event} (h : Finished es) (fs : List Event) :
    Finished (es ++ fs) := by
  obtain ⟨left, hleft, hflush⟩ := h
  refine ⟨left, List.mem_append_left _ hleft, ?_⟩
  rcases hflush with hzero | ⟨o, ho⟩
  · exact Or.inl hzero
  · exact Or.inr ⟨o, List.mem_append_left _ ho⟩

/-- A flush before the exit is the last one, and the exit comes after it. -/
structure Finishing (es : List Event) (k : Core) : Prop where
  final : ∀ why f, k.loop = .flushing why f .exited → why = .final
  finished : k.loop = .idle .exited → Finished es

theorem Finishing.step {asked : Bool} {es new : List Event} {k k' : Core} (h : Finishing es k)
    (hstep : Core.Step asked k new k') : Finishing (es ++ new) k' := by
  refine ⟨?_, ?_⟩
  · intro why f busy'
    rcases hstep.of_flushing_exited busy' with busy | ⟨hwhy, -, -⟩ | ⟨g, r, busy, -⟩
    · exact h.final why f busy
    · exact hwhy
    · exact h.final why g busy
  · intro exited'
    rcases hstep.of_exited exited' with ⟨exited, -⟩ | ⟨rfl, -⟩ | ⟨why, f, r, o, busy, -, -, rfl⟩
    · exact (h.finished exited).append new
    · exact ⟨0, List.mem_append_right _ List.mem_cons_self, Or.inl rfl⟩
    · -- The flush that ends is the final one.
      have hwhy := h.final why f busy
      exact ⟨o.remaining.length, by simp, Or.inr ⟨o, by simp [hwhy]⟩⟩

/-! ## Calls to storage since closing has begun -/

/-- The saver was dropped before any call to close. -/
def DroppedFirst (es : List Event) : Prop :=
  ∃ before later, es = before ++ .dropped :: later ∧ ∀ c, .closeBegan c ∉ before

theorem DroppedFirst.append {es : List Event} (h : DroppedFirst es) (fs : List Event) :
    DroppedFirst (es ++ fs) := by
  obtain ⟨before, later, rfl, hbefore⟩ := h
  refine ⟨before, later ++ fs, ?_, hbefore⟩
  rw [List.append_assoc]
  rfl

/-- A call to storage that was made since closing has begun has failed. -/
def FailedSinceClose (es : List Event) : Prop :=
  ∃ c batch e, List.Sublist [.closeBegan c, .callStarted batch, .callEnded batch (.error e)] es

theorem FailedSinceClose.append {es : List Event} (h : FailedSinceClose es) (fs : List Event) :
    FailedSinceClose (es ++ fs) := by
  obtain ⟨c, batch, e, hsub⟩ := h
  exact ⟨c, batch, e, hsub.trans (List.sublist_append_left _ _)⟩

/-- What the last flush has to do with the beginning of closing. -/
structure LastCalls (es : List Event) (k : Core) : Prop where
  started : ∀ why f, k.loop = .flushing why f .exited →
    ∃ c, List.Sublist [.closeBegan c, .callStarted f.current] es
  left : k.loop = .idle .exited → k.buffer = [] ∨ FailedSinceClose es

theorem LastCalls.step {asked : Bool} {es new : List Event} {k k' : Core} (h : LastCalls es k)
    (hclose : k.loop.isEnding = true → ∃ c, .closeBegan c ∈ es)
    (hstep : Core.Step asked k new k') : LastCalls (es ++ new) k' := by
  refine ⟨?_, ?_⟩
  · intro why f busy'
    rcases hstep.of_flushing_exited busy' with busy | ⟨-, idle, rfl⟩ | ⟨g, r, busy, rfl⟩
    · obtain ⟨c, hsub⟩ := h.started why f busy
      exact ⟨c, hsub.trans (List.sublist_append_left _ _)⟩
    · -- The event loop drains its mailbox only after closing has begun.
      obtain ⟨c, hc⟩ := hclose (by rw [idle]; rfl)
      exact ⟨c, (List.singleton_sublist.mpr hc).append (List.Sublist.refl [_])⟩
    · obtain ⟨c, hsub⟩ := h.started why g busy
      have hc : .closeBegan c ∈ es := hsub.subset List.mem_cons_self
      exact ⟨c, (List.singleton_sublist.mpr hc).append (List.sublist_cons_self _ _)⟩
  · intro exited'
    rcases hstep.of_exited exited' with ⟨exited, hsame⟩ | ⟨-, hempty⟩ |
      ⟨why, f, r, o, busy, answered, hbuffer, rfl⟩
    · rw [hsame]
      rcases h.left exited with hempty | hfailed
      · exact Or.inl hempty
      · exact Or.inr (hfailed.append new)
    · exact Or.inl hempty
    · rcases Batch.Flush.answer_ended answered with ⟨-, -, rfl⟩ | ⟨e, rfl, -⟩
      · exact Or.inl hbuffer
      · -- The call that fails was started after closing had begun.
        obtain ⟨c, hsub⟩ := h.started why f busy
        refine Or.inr ⟨c, f.current, e, ?_⟩
        exact hsub.append (List.singleton_sublist.mpr List.mem_cons_self)

/-! ## Whole runs -/

section

variable {capacity groups : Nat} {ticker : Ticker} {s₀ s : State} {as : List Action}
  {es : List Event}

theorem finishing_of_path (h : Path step s₀ as es s) (hnew : new capacity groups ticker = .ok s₀) :
    Finishing es s.core := by
  refine core_induction h (P := Finishing) (coherent_of_new hnew) ?_ ?_
  · obtain ⟨-, -, rfl⟩ := new_eq_ok hnew
    exact ⟨nofun, nofun⟩
  · intro asked es k new k' _ ih hstep
    exact ih.step hstep

/-- Who was asked to end was closed, or dropped before that. -/
theorem closeBegan_of_shutdown (h : Path step s₀ as es s)
    (hnew : new capacity groups ticker = .ok s₀) (hs : s.shutdown = true) :
    (∃ c, .closeBegan c ∈ es) ∨ DroppedFirst es := by
  induction h with
  | refl =>
    obtain ⟨-, -, rfl⟩ := new_eq_ok hnew
    cases hs
  | @tail as es t a u new hrun hstep ih =>
    rcases (door_step hstep).asked hs with hbefore | ⟨c, hc⟩ | rfl
    · rcases ih hbefore with ⟨c, hc⟩ | hdropped
      · exact Or.inl ⟨c, List.mem_append_left _ hc⟩
      · exact Or.inr (hdropped.append _)
    · exact Or.inl ⟨c, List.mem_append_right _ hc⟩
    · -- The saver is dropped now: before any call to close, or after one.
      by_cases hclose : ∃ c, .closeBegan c ∈ es
      · obtain ⟨c, hc⟩ := hclose
        exact Or.inl ⟨c, List.mem_append_left _ hc⟩
      · exact Or.inr ⟨es, [], rfl, fun c hc => hclose ⟨c, hc⟩⟩

theorem lastCalls_of_path (h : Path step s₀ as es s) (hnew : new capacity groups ticker = .ok s₀)
    (hdropped : ¬ DroppedFirst es) : LastCalls es s.core := by
  induction h with
  | refl =>
    obtain ⟨-, -, rfl⟩ := new_eq_ok hnew
    exact ⟨nofun, nofun⟩
  | @tail as es t a u new hrun hstep ih =>
    have hnone : ¬ DroppedFirst es := fun hd => hdropped (hd.append new)
    have hk := (coherent_of_path hrun (coherent_of_new hnew)).core_step hstep
    refine (ih hnone).step ?_ hk
    intro ending
    have asked : t.shutdown = true := (behind_of_path hrun hnew).ending ending
    exact (closeBegan_of_shutdown hrun hnew asked).resolve_right hnone

/-- A call to close that returns finds an event loop that has exited, or none. -/
theorem finished_of_closeReturned {t : State} {a : Action} {new : List Event} {c : Caller}
    (h : Path step s₀ as es s) (hnew : Saver.new capacity groups ticker = .ok s₀)
    (hstep : step s a = some (t, new)) (hloop : s.loop ≠ .absent) (hc : .closeReturned c ∈ new) :
    Finished es := by
  have hbehind := behind_of_path h hnew
  apply (finishing_of_path h hnew).finished
  rcases ((door_step hstep).of_closeReturned hc).1 with fresh | exited | stopping | stopped
  · exact absurd (hbehind.fresh fresh).1 hloop
  · exact exited
  · exact hbehind.stopping c stopping
  · exact (hbehind.stopped stopped).resolve_left hloop

/-- Whatever call to close returns, the event loop has finished before. -/
theorem finished_before_closeReturned (h : Path step s₀ as es s)
    (hnew : new capacity groups ticker = .ok s₀) (hloop : s.loop ≠ .absent) :
    ∀ before c later, es = before ++ .closeReturned c :: later → Finished before := by
  induction h with
  | refl => intro before c later heq; simp at heq
  | @tail as es t a u new hrun hstep ih =>
    intro before c later heq
    have hd := door_step hstep
    have hk := (coherent_of_path hrun (coherent_of_new hnew)).core_step hstep
    by_cases habsent : t.loop = .absent
    · -- The event loop is started only now, so no call to close has returned yet.
      rcases hk.of_absent habsent with hsame | hinit
      · exact absurd ((congrArg Core.loop hsame).trans habsent) hloop
      · obtain ⟨fresh, -, hnone⟩ := hd.of_initialized hinit
        have hrunning := ((behind_of_path hrun hnew).fresh fresh).2.1
        have hmem : .closeReturned c ∈ es ++ new := by
          rw [heq]
          exact List.mem_append_right _ List.mem_cons_self
        rcases List.mem_append.mp hmem with hold | hnow
        · have hstopped : t.door.stopped = true := stopped_of_closeReturned hrun hold
          rw [hrunning] at hstopped
          cases hstopped
        · exact absurd hnow (hnone c)
    · -- The call returned in the last step, or before it.
      rcases List.append_eq_append_iff.mp heq with ⟨mid, rfl, hnow⟩ | ⟨mid, hold, hrest⟩
      · have hc : .closeReturned c ∈ new := by
          rw [hnow]
          exact List.mem_append_right _ List.mem_cons_self
        exact (finished_of_closeReturned hrun hnew hstep habsent hc).append mid
      · cases mid with
        | nil =>
          have hc : .closeReturned c ∈ new := by
            rw [List.nil_append] at hrest
            rw [← hrest]
            exact List.mem_cons_self
          rw [List.append_nil] at hold
          rw [← hold]
          exact finished_of_closeReturned hrun hnew hstep habsent hc
        | cons e mid =>
          rw [List.cons_append] at hrest
          cases hrest
          exact ih habsent before c mid hold

/-- Once a call to close of a saver that was initialized has returned, the event loop has exited. -/
theorem exited_of_closeReturned {c : Caller} (h : Path step s₀ as es s)
    (hnew : new capacity groups ticker = .ok s₀) (hinit : .initialized (.ok ()) ∈ es)
    (hc : .closeReturned c ∈ es) : s.loop = .idle .exited := by
  have hloop := ne_absent_of_initialized h (coherent_of_new hnew) hinit
  have hstopped : s.door.stopped = true := stopped_of_closeReturned h hc
  exact ((behind_of_path h hnew).stopped hstopped).resolve_left hloop

/-! ## The main result -/

/-- What holds of a saver, in a run that has come to `s`, once a call to close has returned. -/
structure Closed (es : List Event) (s : State) : Prop where
  /-- The event loop has taken all requests, lets no more in, and has exited. -/
  drained : s.loop = .idle .exited ∧ s.mailbox.items = [] ∧ s.mailbox.isClosed = true
  /-- Whatever is done after that, no call to storage starts or ends, and what was pushed, what was
      stored and what is shown do not change. -/
  still : ∀ bs fs t, Path step s bs fs t →
    (∀ batch, .callStarted batch ∉ fs) ∧ (∀ batch r, .callEnded batch r ∉ fs) ∧
      pushed (es ++ fs) = pushed es ∧ stored (es ++ fs) = stored es ∧ t.shown = s.shown
  /-- As many offers are shown as were pushed and not stored. -/
  counted : (pushed es).length = (stored es).length + s.shown
  /-- Nothing is left, unless a call to storage has failed that was made since closing began. Nobody
      closes a saver that was dropped first. -/
  complete : ¬ DroppedFirst es → ¬ FailedSinceClose es → pushed es = stored es ∧ s.shown = 0

/-- In every run of a saver that was initialized, whoever moves when and whichever calls to storage
    fail: each call to close that returns does so after the event loop has finished, and from then
    on the saver is closed. -/
theorem close_is_barrier (hnew : new capacity groups ticker = .ok s₀) (h : Path step s₀ as es s)
    (hinit : .initialized (.ok ()) ∈ es) :
    (∀ before c later, es = before ++ .closeReturned c :: later → Finished before) ∧
      ∀ c, .closeReturned c ∈ es → Closed es s := by
  have hs₀ := coherent_of_new hnew
  have hs := coherent_of_path h hs₀
  have hloop := ne_absent_of_initialized h hs₀ hinit
  refine ⟨finished_before_closeReturned h hnew hloop, ?_⟩
  intro c hc
  have exited := exited_of_closeReturned h hnew hinit hc
  have hstation := station_of_idle exited
  have hd := desk_sound_of_path h hnew
  have hpushed : pushed es = stored es ++ s.buffer := by
    have hkept : s.core.kept = s.buffer := Core.kept_of_idle exited
    rw [← hkept]
    exact pushed_eq_of_new h hnew
  have hshown : s.shown = s.buffer.length := (hs.sound.calm_of_idle exited).2
  refine ⟨⟨exited, hd.empty hstation, hd.closed (Or.inr hstation)⟩, ?_, ?_, ?_⟩
  · intro bs fs t hlater
    obtain ⟨hcore, hquiet⟩ := core_eq_of_exited hlater hs exited
    refine ⟨fun batch => hquiet.not_mem rfl, fun batch r => hquiet.not_mem rfl, ?_, ?_, ?_⟩
    · rw [pushed_append, hquiet.pushed_eq_nil, List.append_nil]
    · rw [stored_append, hquiet.stored_eq_nil, List.append_nil]
    · exact congrArg Core.shown hcore
  · rw [hpushed, List.length_append, hshown]
  · intro hdropped hfailed
    have hempty : s.buffer = [] :=
      ((lastCalls_of_path h hnew hdropped).left exited).resolve_right hfailed
    rw [hpushed, hshown, hempty]
    exact ⟨List.append_nil _, rfl⟩

end

/-- Two callers close a saver during a flush that fails, with another offer in the mailbox; the last
    flush stores what is left, and both callers return after that. -/
theorem close_is_barrier_two_callers :
    let s₀ : State := { capacity := 2, groups := 1, ticker := { period := .millis 1000 } }
    let offer (n : UInt64) : Offer := .fresh n 1 1
    let as : List Action := [.init, .save 0 (offer 1), .loop, .save 1 (offer 2), .loop,
      .save 2 (offer 3), .beginClose 3, .beginClose 4, .answer (.error .zeroPageSize), .loop, .loop,
      .loop, .answer (.ok ()), .resumeClose 3, .ticker 0, .ticker 1, .resumeClose 3,
      .resumeClose 4]
    new 2 1 { period := .millis 1000 } = .ok s₀ ∧
      ∃ es s, Path step s₀ as es s ∧ .initialized (.ok ()) ∈ es ∧ .closeReturned 4 ∈ es ∧
        stored es = [offer 1, offer 2] ∧ Closed es s := by
  intro s₀ offer as
  have hnew : new 2 1 { period := .millis 1000 } = .ok s₀ := rfl
  have hend : (follow step s₀ as).map (fun m => (stored m.2,
      decide (.initialized (.ok ()) ∈ m.2), decide (.closeReturned 4 ∈ m.2))) =
      some ([offer 1, offer 2], true, true) := by
    decide +kernel
  obtain ⟨⟨s, es⟩, hfollow, hm⟩ := Option.map_eq_some_iff.mp hend
  simp only [Prod.mk.injEq, decide_eq_true_eq] at hm
  obtain ⟨hstored, hinit, hclosed⟩ := hm
  have hrun := path_of_follow hfollow
  exact ⟨hnew, es, s, hrun, hinit, hclosed, hstored, (close_is_barrier hnew hrun hinit).2 4 hclosed⟩

end OfferService.Saver
