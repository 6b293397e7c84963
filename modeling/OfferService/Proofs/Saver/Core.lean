import OfferService.Proofs.Saver.Door
import OfferService.Proofs.Saver.History

/-
  OfferService.Proofs.Saver.Core

  The part of a saver that its event loop alone works on: the buffer, the flush under way, and the
  number that is shown. `Core.Step` lists all that any action can do to it, each case with its
  events; `core_step` says that there is nothing else. What holds of the buffer over whole runs is
  proved by cases on `Core.Step`, through `core_induction`, and never by opening `step`.

  The invariant `Core.Sound` comes with it: between two flushes the buffer is within the capacity
  and its length is shown; during a flush the buffer is empty and the flush is a cut of what was in
  the buffer before.
-/
namespace OfferService.Saver

/-! ## The core -/

/-- The part of a saver that its event loop alone works on. -/
structure Core where
  capacity : Nat
  groups : Nat
  loop : Loop
  buffer : List Offer
  shown : Nat

/-- The core of a saver. -/
def State.core (s : State) : Core := ⟨s.capacity, s.groups, s.loop, s.buffer, s.shown⟩

/-- Where the event loop stands, or will after its flush. -/
def Loop.station : Loop → Option Station
  | .absent => none
  | .idle at_ => some at_
  | .flushing _ _ after => some after

/-- The flush under way. -/
def Loop.flush? : Loop → Option (Batch.Flush Offer)
  | .flushing _ f _ => some f
  | _ => none

/-- The offers of the flush under way that are not stored yet. -/
def Loop.unstored : Loop → List Offer
  | .flushing _ f _ => f.unstored
  | _ => []

/-- The flushes that the event loop runs for a reason other than a full buffer: why, the station
    before it and the station after it. -/
inductive Occasion : Reason → Station → Station → Prop
  | periodic : Occasion .periodic .serving .serving
  | final : Occasion .final .draining .exited

/-- What an action can do to the core, and with which events; `asked` says whether the end was asked
    for before. -/
inductive Core.Step (asked : Bool) (k : Core) : List Event → Core → Prop
  /-- Others move. -/
  | rest {es} (quiet : Quiet es) : Core.Step asked k es k
  /-- The event loop is started. -/
  | wake {log} (absent : k.loop = .absent) :
      Core.Step asked k [.logged log, .initialized (.ok ())] { k with loop := .idle .serving }
  /-- The event loop sees the end, and drains its mailbox from now on. -/
  | drain (idle : k.loop = .idle .serving) (told : asked = true) :
      Core.Step asked k [] { k with loop := .idle .draining }
  | refuse {at_ c o} (idle : k.loop = .idle at_) (alive : at_ ≠ .exited)
      (full : k.capacity ≤ k.buffer.length) : Core.Step asked k [.refused c o] k
  | push {at_ c o} (idle : k.loop = .idle at_) (alive : at_ ≠ .exited)
      (room : k.buffer.length + 1 < k.capacity) :
      Core.Step asked k [.pushed c o]
        { k with buffer := k.buffer ++ [o], shown := k.buffer.length + 1 }
  /-- The offer that fills the buffer sets off a flush. -/
  | fill {at_ c o f} (idle : k.loop = .idle at_) (alive : at_ ≠ .exited)
      (last : k.buffer.length + 1 = k.capacity) (cut : f.Cuts (k.buffer ++ [o]) k.groups)
      (whole : f.unstored = k.buffer ++ [o]) :
      Core.Step asked k [.pushed c o, .callStarted f.current]
        { k with loop := .flushing .capacity f at_, buffer := [], shown := k.buffer.length + 1 }
  | flush {why at_ after f} (occasion : Occasion why at_ after) (idle : k.loop = .idle at_)
      (cut : f.Cuts k.buffer k.groups) (whole : f.unstored = k.buffer) :
      Core.Step asked k [.callStarted f.current]
        { k with loop := .flushing why f after, buffer := [] }
  /-- The event loop exits with nothing left to flush. -/
  | leave (idle : k.loop = .idle .draining) (empty : k.buffer = []) :
      Core.Step asked k [.exited 0] { k with loop := .idle .exited }
  /-- A batch is stored, and the next one is given to storage. -/
  | proceed {why f g after r} (busy : k.loop = .flushing why f after)
      (answered : f.answer r = .waiting g) :
      Core.Step asked k [.callEnded f.current r, .callStarted g.current]
        { k with loop := .flushing why g after }
  /-- The flush ends. -/
  | settle {why f after r o} (busy : k.loop = .flushing why f after)
      (answered : f.answer r = .ended o) :
      Core.Step asked k
        (.callEnded f.current r :: .flushEnded why o :: arrivalEvents after o.remaining.length)
        { k with loop := .idle after, buffer := o.remaining, shown := o.remaining.length }

/-! ## What any action does to the core -/

@[simp] theorem reply_core (s : State) (c : Caller) (v : Verdict) :
    (reply s c v).core = s.core := by
  rw [reply_eq]
  rfl

@[simp] theorem pushOffer_core (s : State) (c : Caller) (o : Offer) : (pushOffer s c o).core =
    { s.core with buffer := s.buffer ++ [o], shown := s.buffer.length + 1 } := by
  rw [pushOffer, reply_core]
  rfl

/-- The event loop takes an offer from its mailbox. -/
theorem accept_core {s : State} {at_ : Station} (hg : 0 < s.groups) (idle : s.loop = .idle at_)
    (alive : at_ ≠ .exited) (c : Caller) (o : Offer) :
    Core.Step s.shutdown s.core (accept s at_ c o).2 (accept s at_ c o).1.core := by
  -- There is room for more, the offer takes the last place, or the buffer is full.
  rcases Nat.lt_trichotomy (s.buffer.length + 1) s.capacity with room | last | full
  · rw [accept_of_room room, pushOffer_core]
    exact .push idle alive room
  · have hbuffer : (pushOffer s c o).buffer = s.buffer ++ [o] :=
      congrArg Core.buffer (pushOffer_core s c o)
    have hgroups : (pushOffer s c o).groups = s.groups :=
      congrArg Core.groups (pushOffer_core s c o)
    obtain ⟨f, hcut, hwhole, hflush⟩ := flush_of_ne_nil (s := pushOffer s c o)
      (by rw [hgroups]; exact hg) (by rw [hbuffer]; simp) .capacity at_
    rw [hbuffer] at hcut hwhole
    rw [hgroups] at hcut
    have hcore : (flush (pushOffer s c o) .capacity at_).1.core =
        { s.core with
          loop := .flushing .capacity f at_, buffer := [], shown := s.buffer.length + 1 } := by
      rw [hflush]
      show { (pushOffer s c o).core with loop := .flushing .capacity f at_, buffer := [] } = _
      rw [pushOffer_core]
    rw [accept_of_last last, hcore, hflush]
    exact .fill idle alive last hcut hwhole
  · rw [accept_of_full (by omega), reply_core]
    exact .refuse idle alive (by show s.capacity ≤ s.buffer.length; omega)

/-- The event loop flushes its buffer at a tick or at the end. -/
theorem flush_core {s : State} {why : Reason} {at_ after : Station} (hg : 0 < s.groups)
    (occasion : Occasion why at_ after) (idle : s.loop = .idle at_) :
    Core.Step s.shutdown s.core (flush s why after).2 (flush s why after).1.core := by
  by_cases hb : s.buffer = []
  · -- There is nothing to flush: the event loop goes on at once, or exits.
    rw [flush_of_eq_nil hb]
    cases occasion with
    | periodic =>
      have hsame : ({ s with loop := .idle .serving } : State).core = s.core := by
        rw [State.core, State.core, idle]
      rw [hsame]
      exact .rest (by intro e he; cases he)
    | final => exact .leave idle hb
  · obtain ⟨f, hcut, hwhole, hflush⟩ := flush_of_ne_nil hg hb why after
    rw [hflush]
    exact .flush occasion idle hcut hwhole

theorem LoopMove.core_step {s : State} {m : Moved} (hg : 0 < s.groups) (h : LoopMove s m) :
    Core.Step s.shutdown s.core m.2 m.1.core := by
  cases h with
  | close idle asked => exact .drain idle asked
  | @take at_ c o mailbox idle alive =>
    exact accept_core (s := { s with mailbox }) hg idle alive c o
  | @tick n idle => exact flush_core (s := { s with stream := ⟨n⟩ }) hg .periodic idle
  | unfollow => exact .rest (by simp [Quiet, Event.isQuiet])
  | finish idle => exact flush_core hg .final idle

theorem AnswerMove.core_step {s : State} {r : Except Storage.Error Unit} {m : Moved}
    (h : AnswerMove s r m) : Core.Step s.shutdown s.core m.2 m.1.core := by
  cases h with
  | proceed busy answered => exact .proceed busy answered
  | settle busy answered => exact .settle busy answered

theorem CallMove.core_eq {s : State} {a : Action} {m : Moved} (h : CallMove s a m) :
    m.1.core = s.core := by
  cases h <;> rfl

theorem CallMove.quiet {s : State} {a : Action} {m : Moved} (h : CallMove s a m) : Quiet m.2 := by
  intro e he
  have hcall := h.isOfCall he
  cases e with
  | initialized => cases hcall
  | _ => first | rfl | cases hcall

theorem DoorMove.core_step {s : State} {m : Moved} (hl : s.lifecycle = .created → s.loop = .absent)
    (h : DoorMove s m) : Core.Step s.shutdown s.core m.2 m.1.core := by
  cases h with
  | move _ quiet => exact .rest quiet
  | start _ fresh => exact .wake (hl fresh)
  | shut _ quiet => exact .rest quiet

/-- All that an action can do to the core. -/
theorem core_step {s t : State} {a : Action} {es : List Event} (hg : 0 < s.groups)
    (hl : s.lifecycle = .created → s.loop = .absent) (h : step s a = some (t, es)) :
    Core.Step s.shutdown s.core es t.core := by
  cases move_cases h with
  | loop move => exact move.core_step hg
  | answer move => exact move.core_step
  | call move =>
    rw [show t.core = s.core from move.core_eq]
    exact .rest move.quiet
  | door _ move => exact move.core_step hl

/-! ## The invariant of the core -/

theorem Core.Step.capacity_eq {asked : Bool} {k k' : Core} {es : List Event}
    (h : Core.Step asked k es k') :
    k'.capacity = k.capacity := by
  cases h <;> rfl

theorem Core.Step.groups_eq {asked : Bool} {k k' : Core} {es : List Event}
    (h : Core.Step asked k es k') :
    k'.groups = k.groups := by
  cases h <;> rfl

/-- What every core keeps to: the buffer is within the capacity and its length is shown, except
    during a flush, when the buffer is empty, the flush is a cut of what was in the buffer, and the
    length from before it is shown. -/
structure Core.Sound (k : Core) : Prop where
  capacity_pos : 0 < k.capacity
  groups_pos : 0 < k.groups
  calm : k.loop.flush? = none → k.buffer.length ≤ k.capacity ∧ k.shown = k.buffer.length
  busy : ∀ f, k.loop.flush? = some f → k.buffer = [] ∧
    ∃ items, f.Cuts items k.groups ∧ items.length ≤ k.capacity ∧ k.shown = items.length

theorem Core.Sound.calm_of_idle {k : Core} {at_ : Station} (hk : k.Sound)
    (idle : k.loop = .idle at_) : k.buffer.length ≤ k.capacity ∧ k.shown = k.buffer.length :=
  hk.calm (by rw [idle]; rfl)

theorem Core.Sound.busy_of_flushing {k : Core} {why : Reason} {f : Batch.Flush Offer}
    {after : Station} (hk : k.Sound) (busy : k.loop = .flushing why f after) :
    k.buffer = [] ∧
      ∃ items, f.Cuts items k.groups ∧ items.length ≤ k.capacity ∧ k.shown = items.length :=
  hk.busy f (by rw [busy]; rfl)

/-- What a flush leaves behind fits into the buffer. -/
theorem Core.Sound.remaining_le {k : Core} {why : Reason} {f : Batch.Flush Offer} {after : Station}
    {r : Except Storage.Error Unit} {o : Batch.Outcome Offer} (hk : k.Sound)
    (busy : k.loop = .flushing why f after) (answered : f.answer r = .ended o) :
    o.remaining.length ≤ k.capacity := by
  obtain ⟨-, items, hcut, hle, -⟩ := hk.busy_of_flushing busy
  rcases Batch.Flush.answer_ended answered with ⟨-, -, rfl⟩ | ⟨e, -, rfl⟩
  · exact Nat.zero_le _
  · have hlen := congrArg List.length hcut.stored_append_unstored
    rw [List.length_append] at hlen
    show f.unstored.length ≤ k.capacity
    omega

theorem Core.Sound.step {asked : Bool} {k k' : Core} {es : List Event} (hk : k.Sound)
    (h : Core.Step asked k es k') : k'.Sound := by
  refine ⟨by rw [h.capacity_eq]; exact hk.capacity_pos, by rw [h.groups_eq]; exact hk.groups_pos,
    ?_, ?_⟩
  · -- Between two flushes only a push and the end of a flush change the buffer.
    intro hcalm
    cases h with
    | rest => exact hk.calm hcalm
    | wake absent => exact hk.calm (by rw [absent]; rfl)
    | drain idle => exact hk.calm_of_idle idle
    | refuse => exact hk.calm hcalm
    | push idle alive room =>
      exact ⟨by rw [List.length_append]; exact Nat.le_of_lt room, by rw [List.length_append]; rfl⟩
    | fill => cases hcalm
    | flush => cases hcalm
    | leave idle => exact hk.calm_of_idle idle
    | proceed => cases hcalm
    | settle busy answered => exact ⟨hk.remaining_le busy answered, rfl⟩
  · -- A flush begins as a cut of the buffer, and every answer keeps it one.
    intro f hbusy
    cases h with
    | rest => exact hk.busy f hbusy
    | wake => cases hbusy
    | drain => cases hbusy
    | refuse => exact hk.busy f hbusy
    | push idle => rw [idle] at hbusy; cases hbusy
    | @fill at_ c o g idle alive last cut =>
      cases hbusy
      refine ⟨rfl, k.buffer ++ [o], cut, ?_, ?_⟩
      · rw [List.length_append]; exact Nat.le_of_eq last
      · rw [List.length_append]; rfl
    | flush occasion idle cut =>
      cases hbusy
      obtain ⟨hle, hshown⟩ := hk.calm_of_idle idle
      exact ⟨rfl, k.buffer, cut, hle, hshown⟩
    | leave => cases hbusy
    | proceed busy answered =>
      cases hbusy
      obtain ⟨hbuffer, items, hcut, hle, hshown⟩ := hk.busy_of_flushing busy
      exact ⟨hbuffer, items, hcut.answer answered, hle, hshown⟩
    | settle => cases hbusy

/-! ## Savers that were built -/

/-- What every saver that was built keeps to: its core does, and its event loop is not there before
    it is initialized. -/
structure State.Coherent (s : State) : Prop where
  sound : s.core.Sound
  absent_of_created : s.lifecycle = .created → s.loop = .absent

theorem new_eq_ok {capacity groups : Nat} {ticker : Ticker} {s : State}
    (h : new capacity groups ticker = .ok s) :
    0 < capacity ∧ 0 < groups ∧ s = { capacity, groups, ticker } := by
  unfold new at h
  split at h
  · cases h
  · split at h
    · cases h
    · exact ⟨by omega, by omega, (Except.ok.inj h).symm⟩

theorem coherent_of_new {capacity groups : Nat} {ticker : Ticker} {s : State}
    (h : new capacity groups ticker = .ok s) : s.Coherent := by
  obtain ⟨hc, hg, rfl⟩ := new_eq_ok h
  exact ⟨⟨hc, hg, fun _ => ⟨Nat.zero_le _, rfl⟩, nofun⟩, fun _ => rfl⟩

/-- The event loop of a saver that was not initialized is not there after any action either. -/
theorem absent_of_step {s t : State} {a : Action} {es : List Event}
    (hl : s.lifecycle = .created → s.loop = .absent) (h : step s a = some (t, es))
    (ht : t.lifecycle = .created) : t.loop = .absent := by
  -- A saver that is fresh now was fresh before; only `init` starts an event loop, and ends that.
  have habsent : s.loop = .absent := hl ((door_step h).created ht)
  cases move_cases h with
  | loop move => exact absurd habsent move.ne_absent
  | answer move => exact absurd habsent move.ne_absent
  | call move =>
    rw [← habsent]
    exact congrArg Core.loop move.core_eq
  | door _ move =>
    cases move with
    | move => exact habsent
    | start _ _ started => exact absurd (started.symm.trans ht) nofun
    | shut => exact habsent

theorem State.Coherent.core_step {s t : State} {a : Action} {es : List Event} (hs : s.Coherent)
    (h : step s a = some (t, es)) : Core.Step s.shutdown s.core es t.core :=
  Saver.core_step hs.sound.groups_pos hs.absent_of_created h

theorem State.Coherent.step {s t : State} {a : Action} {es : List Event} (hs : s.Coherent)
    (h : step s a = some (t, es)) : t.Coherent :=
  ⟨hs.sound.step (hs.core_step h), absent_of_step hs.absent_of_created h⟩

theorem coherent_of_path {s t : State} {as : List Action} {es : List Event}
    (h : Path step s as es t) (hs : s.Coherent) : t.Coherent := by
  induction h with
  | refl => exact hs
  | tail _ hstep ih => exact ih.step hstep

/-- What holds of the core at the beginning, and is kept by all that can be done to a sound core,
    holds of it in every run. -/
theorem core_induction {P : List Event → Core → Prop} {s t : State} {as : List Action}
    {es : List Event} (h : Path step s as es t) (hs : s.Coherent) (base : P [] s.core)
    (step : ∀ {asked es k new k'}, k.Sound → P es k → Core.Step asked k new k' →
      P (es ++ new) k') :
    P es t.core := by
  induction h with
  | refl => exact base
  | tail hrun hstep ih =>
    have ht := coherent_of_path hrun hs
    exact step ht.sound ih (ht.core_step hstep)

/-- A saver keeps the settings that it was built with. -/
theorem settings_eq_of_path {capacity groups : Nat} {ticker : Ticker} {s₀ s : State}
    {as : List Action} {es : List Event} (h : Path step s₀ as es s)
    (hnew : new capacity groups ticker = .ok s₀) : s.capacity = capacity ∧ s.groups = groups := by
  refine core_induction h (P := fun _ k => k.capacity = capacity ∧ k.groups = groups)
    (coherent_of_new hnew) ?_ ?_
  · obtain ⟨-, -, rfl⟩ := new_eq_ok hnew
    exact ⟨rfl, rfl⟩
  · rintro asked es k new k' - ⟨hcapacity, hgroups⟩ hstep
    exact ⟨hstep.capacity_eq.trans hcapacity, hstep.groups_eq.trans hgroups⟩

/-! ## After the event loop has exited -/

theorem Core.Step.eq_of_exited {asked : Bool} {k k' : Core} {es : List Event}
    (h : Core.Step asked k es k') (exited : k.loop = .idle .exited) : k' = k ∧ Quiet es := by
  cases h with
  | rest quiet => exact ⟨rfl, quiet⟩
  | wake absent => rw [exited] at absent; cases absent
  | drain idle => rw [exited] at idle; cases idle
  | refuse idle alive => rw [exited] at idle; cases idle; exact absurd rfl alive
  | push idle alive => rw [exited] at idle; cases idle; exact absurd rfl alive
  | fill idle alive => rw [exited] at idle; cases idle; exact absurd rfl alive
  | flush occasion idle => rw [exited] at idle; cases idle; cases occasion
  | leave idle => rw [exited] at idle; cases idle
  | proceed busy => rw [exited] at busy; cases busy
  | settle busy => rw [exited] at busy; cases busy

/-- Once the event loop has exited, nothing happens to the core any more. -/
theorem core_eq_of_exited {s t : State} {as : List Action} {es : List Event}
    (h : Path step s as es t) (hs : s.Coherent) (exited : s.loop = .idle .exited) :
    t.core = s.core ∧ Quiet es := by
  refine core_induction h (P := fun es k => k = s.core ∧ Quiet es) hs ⟨rfl, nofun⟩ ?_
  rintro asked es k new k' - ⟨rfl, hquiet⟩ hstep
  obtain ⟨hsame, hnew⟩ := hstep.eq_of_exited exited
  refine ⟨hsame, ?_⟩
  intro e he
  rcases List.mem_append.mp he with he | he
  · exact hquiet e he
  · exact hnew e he

end OfferService.Saver
