import OfferService.Proofs.Publisher.Blocks

/-
  OfferService.Proofs.Publisher.Closing

  For whom the end of a publisher is a barrier. A message that was put into the queue is finished
  when it is published or has used up its attempts; until then the task has it in hand or it is
  still in the queue. That balance holds in every state of a run. So whoever returns from closing
  while a message is in either place returns too early, and after anybody else nothing is attempted
  any more.

  The caller who waits for the task returns when that has exited. All others return at once, at
  whatever point the task is then.
-/
namespace OfferService.Publisher

variable {topic : String} {capacity : Nat} {s t : State} {as : List Action}
  {es new before later : List Event} {a : Action} {c : Caller}

/-! ## Finished messages -/

/-- The message that is finished: it is published, or it has used up its attempts. -/
def Event.finish : Event → List Envelope
  | .attemptEnded e (.ok ()) => [e]
  | .gaveUp e _ => [e]
  | _ => []

/-- The messages that were published or have used up their attempts, in that order. -/
def finished (es : List Event) : List Envelope := es.flatMap Event.finish

@[simp] theorem finished_append (es fs : List Event) :
    finished (es ++ fs) = finished es ++ finished fs := List.flatMap_append

/-- The message that the task has in hand, whether the sink has it or it is to be tried again. -/
def Work.held : Work → List Envelope
  | .idle _ => []
  | .attempting e _ _ => [e]
  | .pausing e _ _ => [e]

/-- The messages that the publisher has: the one in hand, then those in the queue. -/
def State.unfinished (s : State) : List Envelope := s.work.held ++ s.queue.items.map (·.2)

/-- A message that is put into the queue is unfinished. -/
theorem unfinished_enter {s : State} {q : Mailbox Caller Envelope} {c : Caller} {e : Envelope}
    (items : q.items = s.queue.items ++ [(c, e)]) (pending : List (Caller × Envelope)) :
    ({ s with queue := q, pending } : State).unfinished = s.unfinished ++ [e] := by
  show s.work.held ++ q.items.map (·.2) = s.work.held ++ s.queue.items.map (·.2) ++ [e]
  rw [items, List.map_append, List.append_assoc]
  rfl

/-- What was unfinished and what is put into the queue is what gets finished and what is unfinished
    afterwards. -/
theorem unfinished_of_step (h : step s a = some (t, new)) :
    s.unfinished ++ (queued new).map (·.2) = finished new ++ t.unfinished := by
  cases move_cases h with
  | turnAway => exact List.append_nil _
  | @enter c e admitted =>
    have items := Mailbox.items_enter admitted e
    rw [Mailbox.items_request] at items
    exact (unfinished_enter items s.pending).symm
  | @wait c e =>
    show s.unfinished ++ [] = s.work.held ++ (s.queue.request c).items.map (·.2)
    rw [Mailbox.items_request, List.append_nil]
    rfl
  | @withdraw c e =>
    show s.unfinished ++ [] = s.work.held ++ (s.queue.withdraw c).items.map (·.2)
    rw [Mailbox.items_withdraw, List.append_nil]
    rfl
  | @letIn c e found admitted =>
    exact (unfinished_enter (Mailbox.items_enter admitted e) _).symm
  | closeFirst => exact List.append_nil _
  | closeLater => exact List.append_nil _
  | closeEnd => exact List.append_nil _
  | drop => exact List.append_nil _
  | shut idle =>
    rw [State.unfinished, idle]
    exact List.append_nil _
  | @take at_ c e queue n idle alive next =>
    -- The first message of the queue is the one in hand now.
    rw [State.unfinished, idle, (Mailbox.take?_eq_some next).1]
    exact List.append_nil _
  | exit idle =>
    rw [State.unfinished, idle]
    exact List.append_nil _
  | retry pausing =>
    rw [State.unfinished, pausing]
    exact List.append_nil _
  | deliver busy =>
    rw [State.unfinished, busy]
    exact List.append_nil _
  | fail busy =>
    rw [State.unfinished, busy]
    exact List.append_nil _
  | giveUp busy =>
    rw [State.unfinished, busy]
    exact List.append_nil _

/-- In a run, the messages put into the queue are those that are finished and those that are not, in
    this order. -/
theorem queued_eq_of_path (h : Path step (Publisher.new topic capacity) as es s) :
    (queued es).map (·.2) = finished es ++ s.unfinished := by
  refine h.invariant (P := fun _ es s => (queued es).map (·.2) = finished es ++ s.unfinished)
    rfl ?_
  intro _ es s _ t new _ ih hstep
  calc (queued (es ++ new)).map (·.2)
      = finished es ++ (s.unfinished ++ (queued new).map (·.2)) := by
        rw [queued_append, List.map_append, ih, List.append_assoc]
    _ = finished (es ++ new) ++ t.unfinished := by
        rw [unfinished_of_step hstep, finished_append, List.append_assoc]

/-! ## After closing has begun -/

/-- Nothing is put into the queue, and nothing is attempted. -/
structure Still (es : List Event) : Prop where
  noQueued : queued es = []
  noStarts : starts es = []
  noAttempts : attempts es = []

theorem Still.append {fs : List Event} (h : Still es) (h' : Still fs) : Still (es ++ fs) := by
  refine ⟨?_, ?_, ?_⟩
  · rw [queued_append, h.noQueued, h'.noQueued]
    rfl
  · rw [starts_append, h.noStarts, h'.noStarts]
    rfl
  · rw [attempts_append, h.noAttempts, h'.noAttempts]
    rfl

theorem Still.of_append {fs : List Event} (h : Still (es ++ fs)) : Still fs := by
  obtain ⟨hqueued, hstarts, hattempts⟩ := h
  rw [queued_append] at hqueued
  rw [starts_append] at hstarts
  rw [attempts_append] at hattempts
  exact ⟨(List.append_eq_nil_iff.mp hqueued).2, (List.append_eq_nil_iff.mp hstarts).2,
    (List.append_eq_nil_iff.mp hattempts).2⟩

/-- A publisher that closes goes on to close, and lets no more messages in. -/
theorem shutdown_of_step (h : step s a = some (t, new)) (asked : s.shutdown = true) :
    t.shutdown = true ∧ queued new = [] := by
  cases move_cases h with
  | enter _ unasked => rw [asked] at unasked; cases unasked
  | wait unasked => rw [asked] at unasked; cases unasked
  | letIn _ _ unasked => rw [asked] at unasked; cases unasked
  | closeFirst => exact ⟨rfl, rfl⟩
  | closeLater => exact ⟨rfl, rfl⟩
  | drop => exact ⟨rfl, rfl⟩
  | _ => exact ⟨asked, rfl⟩

/-- What is attempted is a message that the publisher has. -/
theorem attempts_of_step (h : step s a = some (t, new)) (none : s.unfinished = []) :
    starts new = [] ∧ attempts new = [] := by
  obtain ⟨hheld, hitems⟩ := List.append_eq_nil_iff.mp none
  cases move_cases h with
  | take _ _ next => rw [(Mailbox.take?_eq_some next).1] at hitems; cases hitems
  | retry pausing => rw [pausing] at hheld; cases hheld
  | deliver busy => rw [busy] at hheld; cases hheld
  | fail busy => rw [busy] at hheld; cases hheld
  | giveUp busy => rw [busy] at hheld; cases hheld
  | _ => exact ⟨rfl, rfl⟩

/-- Nothing happens to messages in a publisher that closes and has none. -/
theorem still_of_path (h : Path step s as es t) (asked : s.shutdown = true)
    (none : s.unfinished = []) : Still es := by
  have hall : Still es ∧ t.shutdown = true ∧ t.unfinished = [] := by
    refine h.invariant (P := fun _ es t => Still es ∧ t.shutdown = true ∧ t.unfinished = [])
      ⟨⟨rfl, rfl, rfl⟩, asked, none⟩ ?_
    rintro _ es t _ u new - ⟨hstill, hasked, hnone⟩ hstep
    obtain ⟨hasked', hqueued⟩ := shutdown_of_step hstep hasked
    obtain ⟨hstarts, hattempts⟩ := attempts_of_step hstep hnone
    have hbalance := unfinished_of_step hstep
    rw [hnone, hqueued] at hbalance
    exact ⟨hstill.append ⟨hqueued, hstarts, hattempts⟩, hasked',
      (List.append_eq_nil_iff.mp hbalance.symm).2⟩
  exact hall.1

theorem shutdown_of_path (h : Path step (Publisher.new topic capacity) as es s)
    (begun : closings es ≠ []) : s.shutdown = true := by
  refine h.invariant (P := fun _ es s => closings es ≠ [] → s.shutdown = true)
    (fun hne => absurd rfl hne) ?_ begun
  intro _ es s _ t new _ ih hstep hne
  by_cases hold : closings es = []
  · -- The first call to close begins now.
    rw [closings_append, hold, List.nil_append] at hne
    cases move_cases hstep with
    | closeFirst => rfl
    | closeLater => rfl
    | _ => exact absurd rfl hne
  · exact (shutdown_of_step hstep (ih hold)).1

/-! ## The end of the task -/

/-- The task has exited when it has said so. -/
theorem exited_iff_of_path (h : Path step (Publisher.new topic capacity) as es s) :
    (∃ n, .exited n ∈ es) ↔ s.work = .idle .exited := by
  refine h.invariant (P := fun _ es s => (∃ n, .exited n ∈ es) ↔ s.work = .idle .exited) (by
    constructor
    · rintro ⟨n, hn⟩
      cases hn
    · nofun) ?_
  intro as es s a t new hpath ih hstep
  have hending := ending_of_path hpath
  -- The task exits in one move only, and it has nothing in hand then.
  have hmove : (∃ n, .exited n ∈ new) ∨ (∀ n, .exited n ∉ new) ∧
      (t.work = .idle .exited → s.work = .idle .exited) := by
    cases move_cases hstep with
    | exit => exact Or.inl ⟨_, List.mem_cons_self⟩
    | shut => exact Or.inr ⟨by simp, nofun⟩
    | take => exact Or.inr ⟨by simp, nofun⟩
    | retry => exact Or.inr ⟨by simp, nofun⟩
    | fail => exact Or.inr ⟨by simp, nofun⟩
    | deliver busy =>
      refine Or.inr ⟨by simp, fun exited => ?_⟩
      cases exited
      exact absurd (by rw [busy]; rfl) (hending.ne_exited (by rw [busy]; nofun))
    | giveUp busy =>
      refine Or.inr ⟨by simp, fun exited => ?_⟩
      cases exited
      exact absurd (by rw [busy]; rfl) (hending.ne_exited (by rw [busy]; nofun))
    | _ => exact Or.inr ⟨by simp, id⟩
  constructor
  · rintro ⟨n, hn⟩
    rcases List.mem_append.mp hn with hold | hnew
    · exact exited_of_step hstep (ih.mp ⟨n, hold⟩)
    · cases move_cases hstep with
      | exit => rfl
      | _ => simp at hnew
  · intro exited
    rcases hmove with ⟨n, hn⟩ | ⟨-, hback⟩
    · exact ⟨n, List.mem_append_right _ hn⟩
    · obtain ⟨n, hn⟩ := ih.mpr (hback exited)
      exact ⟨n, List.mem_append_left _ hn⟩

/-! ## The main result -/

/-- One of two events that is not the first is the second. -/
theorem eq_of_append_cons_eq_pair {left right : List Event} {e first second : Event}
    (h : left ++ e :: right = [first, second]) (other : first ≠ e) :
    left = [first] ∧ e = second ∧ right = [] := by
  cases left with
  | nil => exact absurd (List.cons.inj h).1.symm other
  | cons x left =>
    obtain ⟨rfl, htail⟩ := List.cons.inj h
    cases left with
    | nil =>
      obtain ⟨hsecond, hright⟩ := List.cons.inj htail
      exact ⟨rfl, hsecond, hright⟩
    | cons y left => simp at htail

/-- A call to close returns to the caller who has waited for the task, or to a later one as soon as
    it is made. -/
theorem of_closeReturned {left right : List Event}
    (h : step s a = some (t, left ++ .closeReturned c :: right)) :
    right = [] ∧
      ((∃ log, left = [.logged log]) ∧ s.closer = some c ∧ s.work = .idle .exited ∨
        left = [.closeBegan c] ∧ s.hasCloser = true) := by
  have hmem : .closeReturned c ∈ left ++ .closeReturned c :: right :=
    List.mem_append_right _ List.mem_cons_self
  generalize hnew : left ++ .closeReturned c :: right = new at h hmem
  cases move_cases h with
  | closeLater later =>
    obtain ⟨hleft, hc, hright⟩ := eq_of_append_cons_eq_pair hnew nofun
    cases hc
    exact ⟨hright, Or.inr ⟨hleft, later⟩⟩
  | closeEnd owner exited =>
    obtain ⟨hleft, hc, hright⟩ := eq_of_append_cons_eq_pair hnew nofun
    cases hc
    exact ⟨hright, Or.inl ⟨⟨_, hleft⟩, owner, exited⟩⟩
  | _ => simp at hmem

/-- Whoever returns from closing between these events finds all messages finished, and nothing
    happens to any message after that. -/
structure Barrier (before later : List Event) : Prop where
  finished : finished before = (queued before).map (·.2)
  still : Still later

/-- In every run of a publisher, whoever sends and closes when, however the sink answers, and
    whichever call to close returns: it is a barrier if the messages put into the queue are finished
    by then, and it is if the task has exited. A call that returns before the task has exited comes
    after the beginning of another one, and returns as soon as it is made. -/
theorem close_barrier_iff_finished
    (h : Path step (Publisher.new topic capacity) as (before ++ .closeReturned c :: later) s) :
    (Barrier before later ↔ finished before = (queued before).map (·.2)) ∧
      ((∃ n, .exited n ∈ before) → Barrier before later) ∧
      ((∀ n, .exited n ∉ before) →
        ∃ earlier, before = earlier ++ [.closeBegan c] ∧ closings earlier ≠ []) := by
  cases h.passes with
  | @mk as old u a left right v bs new hither now onward =>
    have hclosers := closers_of_path hither
    obtain ⟨-, hreturn⟩ := of_closeReturned now
    -- The step tells of no message before the call returns.
    have hleft : finished left = [] ∧ queued left = [] ∧ ∀ n, .exited n ∉ left := by
      rcases hreturn with ⟨⟨log, rfl⟩, -⟩ | ⟨rfl, -⟩
      · exact ⟨rfl, rfl, by simp⟩
      · exact ⟨rfl, rfl, by simp⟩
    have asked : u.shutdown = true := by
      apply shutdown_of_path hither
      rcases hreturn with ⟨-, owner, -⟩ | ⟨-, hasCloser⟩
      · intro hnone
        have hhead := hclosers.owner c owner
        rw [hnone] at hhead
        cases hhead
      · intro hnone
        rw [hclosers.nobody.mpr hnone] at hasCloser
        cases hasCloser
    have hbarrier : u.unfinished = [] → Barrier (old ++ left) (right ++ new) := by
      intro hnone
      have hstill := still_of_path ((Path.single now).trans onward) asked hnone
      rw [List.append_assoc, ← List.singleton_append, List.append_assoc] at hstill
      refine ⟨?_, hstill.of_append.of_append⟩
      rw [finished_append, queued_append, hleft.1, hleft.2.1, List.append_nil, List.append_nil,
        queued_eq_of_path hither, hnone, List.append_nil]
    refine ⟨⟨Barrier.finished, ?_⟩, ?_, ?_⟩
    · intro hfinished
      apply hbarrier
      rw [finished_append, queued_append, hleft.1, hleft.2.1, List.append_nil, List.append_nil,
        queued_eq_of_path hither] at hfinished
      exact List.self_eq_append_right.mp hfinished
    · rintro ⟨n, hn⟩
      have hexited : .exited n ∈ old := (List.mem_append.mp hn).resolve_right (hleft.2.2 n)
      have exited := (exited_iff_of_path hither).mp ⟨n, hexited⟩
      have hitems := ((ending_of_path hither).empty (by rw [exited]; rfl)).2
      apply hbarrier
      rw [State.unfinished, exited, hitems]
      rfl
    · intro hrunning
      rcases hreturn with ⟨-, -, exited⟩ | ⟨rfl, hasCloser⟩
      · obtain ⟨n, hn⟩ := (exited_iff_of_path hither).mpr exited
        exact absurd (List.mem_append_left _ hn) (hrunning n)
      · refine ⟨old, rfl, ?_⟩
        intro hnone
        rw [hclosers.nobody.mpr hnone] at hasCloser
        cases hasCloser

/-- Two callers close a publisher while the sink has a message. The first one returns when the
    message is published and the task has exited. -/
theorem close_barrier_iff_finished_first_caller :
    let e : Envelope := { topic := "offers", key := "offers", payload := "a" }
    let as : List Action := [.send 0 e, .task, .beginClose 1, .beginClose 2, .answer (.ok ()),
      .task, .task, .resumeClose 1]
    let before : List Event := [.queued 0 e, .returned 0 (.ok ()), .attemptStarted e, .closeBegan 1,
      .closeBegan 2, .closeReturned 2, .attemptEnded e (.ok ()), .exited 0,
      .logged [⟨.info, .producer, "Event producer closed"⟩]]
    ∃ s, Path step (Publisher.new "offers" 8) as (before ++ .closeReturned 1 :: []) s ∧
      Barrier before [] := by
  intro e as before
  have hpath : Path step (Publisher.new "offers" 8) as (before ++ .closeReturned 1 :: []) _ :=
    path_of_follow rfl
  exact ⟨_, hpath, (close_barrier_iff_finished hpath).2.1 ⟨0, by simp [before]⟩⟩

/-- The second one returns while the sink still has the message, so not every call to close is a
    barrier. -/
theorem not_every_close_is_barrier :
    ¬ ∀ topic capacity as before c later s,
      Path step (Publisher.new topic capacity) as (before ++ .closeReturned c :: later) s →
        Barrier before later := by
  intro hall
  let e : Envelope := { topic := "offers", key := "offers", payload := "a" }
  let as : List Action := [.send 0 e, .task, .beginClose 1, .beginClose 2, .answer (.ok ())]
  let before : List Event := [.queued 0 e, .returned 0 (.ok ()), .attemptStarted e, .closeBegan 1,
    .closeBegan 2]
  have hpath : Path step (Publisher.new "offers" 8) as
      (before ++ .closeReturned 2 :: [.attemptEnded e (.ok ())]) _ := path_of_follow rfl
  have hlate := (hall _ _ _ _ _ _ _ hpath).still.noAttempts
  cases hlate

end OfferService.Publisher
