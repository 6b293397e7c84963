import OfferService.Proofs.Batch.Flush
import OfferService.Saver.Step

/-
  OfferService.Proofs.Saver.Moves

  The moves of a saver's event loop, opened once: what a flush, a verdict and an offer that is taken
  from the mailbox amount to. The door of a saver, which is all that has to do with starting and
  closing it, stays as it is in every move of the event loop.
-/
namespace OfferService.Saver

/-! ## Flushes -/

/-- What the event loop says on its arrival at a station, with so many offers in the buffer. -/
def arrivalEvents (at_ : Station) (left : Nat) : List Event :=
  if at_ = .exited then [.exited left] else []

/-- The event loop says something only when it exits. -/
@[simp] theorem mem_arrivalEvents {at_ : Station} {left : Nat} {e : Event} :
    e ∈ arrivalEvents at_ left ↔ at_ = .exited ∧ e = .exited left := by
  unfold arrivalEvents
  split
  · simp [*]
  · simp [*]

/-- A flush of a buffer that is not empty begins with its first batch. -/
theorem flush_of_ne_nil {s : State} (hg : 0 < s.groups) (hb : s.buffer ≠ []) (why : Reason)
    (after : Station) : ∃ f : Batch.Flush Offer, f.Cuts s.buffer s.groups ∧
      f.unstored = s.buffer ∧
      flush s why after =
        ({ s with loop := .flushing why f after, buffer := [] }, [.callStarted f.current]) := by
  obtain ⟨f, hstart, hcut, hwhole⟩ := Batch.Flush.exists_start hb hg
  refine ⟨f, hcut, hwhole, ?_⟩
  unfold flush
  rw [if_neg (by simpa using hb), hstart]
  rfl

/-- A flush of an empty buffer is over at once. -/
theorem flush_of_eq_nil {s : State} (hb : s.buffer = []) (why : Reason) (after : Station) :
    flush s why after = ({ s with loop := .idle after }, arrivalEvents after 0) := by
  unfold flush
  rw [if_pos (by rw [hb]; rfl), arrive, hb]
  rfl

/-! ## Verdicts and offers -/

/-- A verdict on its way changes only who waits for one. -/
theorem reply_eq (s : State) (c : Caller) (v : Verdict) :
    reply s c v =
      { s with awaiting := (reply s c v).awaiting, verdicts := (reply s c v).verdicts } := by
  unfold reply
  split <;> rfl

/-- The saver after its event loop has pushed an offer and told the caller. -/
def pushOffer (s : State) (c : Caller) (o : Offer) : State :=
  reply { s with buffer := s.buffer ++ [o], shown := s.buffer.length + 1 } c (.ok ())

theorem accept_of_full {s : State} (full : s.capacity ≤ s.buffer.length) (at_ : Station)
    (c : Caller) (o : Offer) :
    accept s at_ c o = (reply s c (.error (.capacityReached s.capacity)), [.refused c o]) := by
  unfold accept
  rw [if_pos full]

theorem accept_of_room {s : State} (room : s.buffer.length + 1 < s.capacity) (at_ : Station)
    (c : Caller) (o : Offer) : accept s at_ c o = (pushOffer s c o, [.pushed c o]) := by
  -- The second comparison reads the capacity of the saver that has pushed the offer.
  have hlen : (s.buffer ++ [o]).length = s.buffer.length + 1 := List.length_append
  have hcap : (pushOffer s c o).capacity = s.capacity := by rw [pushOffer, reply_eq]
  unfold accept
  rw [if_neg (by omega)]
  simp only [hlen]
  rw [← pushOffer, hcap, if_neg (by omega)]

theorem accept_of_last {s : State} (last : s.buffer.length + 1 = s.capacity) (at_ : Station)
    (c : Caller) (o : Offer) :
    accept s at_ c o = ((flush (pushOffer s c o) .capacity at_).1,
      .pushed c o :: (flush (pushOffer s c o) .capacity at_).2) := by
  have hlen : (s.buffer ++ [o]).length = s.buffer.length + 1 := List.length_append
  have hcap : (pushOffer s c o).capacity = s.capacity := by rw [pushOffer, reply_eq]
  unfold accept
  rw [if_neg (by omega)]
  simp only [hlen]
  rw [← pushOffer, hcap, if_pos (by omega)]

/-! ## The door -/

/-- The part of a saver that has to do with starting and closing it. -/
structure Door where
  lifecycle : Lifecycle
  ticker : Ticker
  shutdown : Bool
  stopped : Bool
  closing : Closing
  bystanders : List Caller

/-- The door of a saver. -/
def State.door (s : State) : Door :=
  ⟨s.lifecycle, s.ticker, s.shutdown, s.stopped, s.closing, s.bystanders⟩

@[simp] theorem reply_door (s : State) (c : Caller) (v : Verdict) :
    (reply s c v).door = s.door := by
  rw [reply_eq]
  rfl

@[simp] theorem pushOffer_door (s : State) (c : Caller) (o : Offer) :
    (pushOffer s c o).door = s.door := by
  rw [pushOffer, reply_door]
  rfl

@[simp] theorem flush_door (s : State) (why : Reason) (after : Station) :
    (flush s why after).1.door = s.door := by
  unfold flush
  split
  · rfl
  · cases Batch.Flush.start s.buffer s.groups <;> rfl

@[simp] theorem accept_door (s : State) (at_ : Station) (c : Caller) (o : Offer) :
    (accept s at_ c o).1.door = s.door := by
  -- There is room for more, the offer takes the last place, or the buffer is full.
  rcases Nat.lt_trichotomy (s.buffer.length + 1) s.capacity with room | last | full
  · rw [accept_of_room room, pushOffer_door]
  · rw [accept_of_last last, flush_door, pushOffer_door]
  · rw [accept_of_full (by omega), reply_door]

/-! ## The moves of the event loop -/

/-- All that the event loop can do of its own accord. -/
inductive LoopMove (s : State) : Moved → Prop
  /-- It sees that the saver closes, and lets no more requests in. -/
  | close (idle : s.loop = .idle .serving) (asked : s.shutdown = true) :
      LoopMove s ({ s with loop := .idle .draining, mailbox := s.mailbox.close }, [])
  | take {at_ c o mailbox} (idle : s.loop = .idle at_) (alive : at_ ≠ .exited)
      (unasked : at_ = .serving → s.shutdown = false)
      (next : s.mailbox.take? = some ((c, o), mailbox)) :
      LoopMove s (accept { s with mailbox } at_ c o)
  | tick {n} (idle : s.loop = .idle .serving) (unasked : s.shutdown = false)
      (idleMail : s.mailbox.take? = none) (follows : s.followsTicks = true)
      (next : s.ticker.next s.stream = some (.tick n)) :
      LoopMove s (flush { s with stream := ⟨n⟩ } .periodic .serving)
  /-- It learns that there will be no more ticks. -/
  | unfollow {log} (idle : s.loop = .idle .serving) (unasked : s.shutdown = false)
      (idleMail : s.mailbox.take? = none) (follows : s.followsTicks = true)
      (next : s.ticker.next s.stream = some .ended) :
      LoopMove s ({ s with followsTicks := false }, [.logged log])
  | finish (idle : s.loop = .idle .draining) (empty : s.mailbox.take? = none) :
      LoopMove s (flush s .final .exited)

theorem loopMove_cases {s : State} {m : Moved} (h : loopMove s = some m) : LoopMove s m := by
  unfold loopMove at h
  split at h
  · -- Serving: the end comes before requests, and requests before ticks.
    rename_i idle
    split at h
    · rename_i asked
      cases h
      exact .close idle asked
    · rename_i hasked
      have unasked : s.shutdown = false := by simpa using hasked
      split at h
      · rename_i next
        cases h
        exact .take idle (by decide) (fun _ => unasked) next
      · rename_i idleMail
        unfold onTick at h
        split at h
        · rename_i follows
          split at h
          · rename_i next
            cases h
            exact .tick idle unasked idleMail follows next
          · rename_i next
            cases h
            exact .unfollow idle unasked idleMail follows next
          · cases h
        · cases h
  · -- Draining: requests, then the last flush.
    rename_i idle
    split at h
    · rename_i next
      cases h
      exact .take idle (by decide) nofun next
    · rename_i empty
      cases h
      exact .finish idle empty
  · cases h

theorem LoopMove.door_eq {s : State} {m : Moved} (h : LoopMove s m) : m.1.door = s.door := by
  cases h with
  | close => rfl
  | take => rw [accept_door]; rfl
  | tick => rw [flush_door]; rfl
  | unfollow => rfl
  | finish => rw [flush_door]

theorem LoopMove.ne_absent {s : State} {m : Moved} (h : LoopMove s m) : s.loop ≠ .absent := by
  cases h with
  | close idle => rw [idle]; nofun
  | take idle => rw [idle]; nofun
  | tick idle => rw [idle]; nofun
  | unfollow idle => rw [idle]; nofun
  | finish idle => rw [idle]; nofun

/-- All that can come of an answer of storage. -/
inductive AnswerMove (s : State) (r : Except Storage.Error Unit) : Moved → Prop
  | proceed {why f g after} (busy : s.loop = .flushing why f after)
      (answered : f.answer r = .waiting g) :
      AnswerMove s r ({ s with loop := .flushing why g after },
        [.callEnded f.current r, .callStarted g.current])
  | settle {why f after o} (busy : s.loop = .flushing why f after)
      (answered : f.answer r = .ended o) :
      AnswerMove s r
        ({ s with loop := .idle after, buffer := o.remaining, shown := o.remaining.length },
          .callEnded f.current r :: .flushEnded why o :: arrivalEvents after o.remaining.length)

theorem answer_cases {s : State} {r : Except Storage.Error Unit} {m : Moved}
    (h : answer s r = some m) : AnswerMove s r m := by
  unfold answer at h
  split at h
  · rename_i why f after busy
    cases hr : f.answer r with
    | waiting g =>
      rw [hr] at h
      cases h
      exact .proceed busy hr
    | ended o =>
      rw [hr] at h
      cases h
      exact .settle busy hr
  · cases h

theorem AnswerMove.ne_absent {s : State} {r : Except Storage.Error Unit} {m : Moved}
    (h : AnswerMove s r m) : s.loop ≠ .absent := by
  cases h with
  | proceed busy => rw [busy]; nofun
  | settle busy => rw [busy]; nofun

theorem AnswerMove.door_eq {s : State} {r : Except Storage.Error Unit} {m : Moved}
    (h : AnswerMove s r m) : m.1.door = s.door := by
  cases h <;> rfl

/-! ## Calls to save -/

/-- All that a call to save can do: the call itself, a look at the mailbox or at the verdict, and
    its being given up. -/
inductive CallMove (s : State) : Action → Moved → Prop
  | turnAway {c o e} (why : s.shutdown = true ∧ e = .closed ∨
        s.shutdown = false ∧ s.lifecycle = .created ∧ e = .notInitialized) :
      CallMove s (.save c o) (s, [.returned c (.error e)])
  | enter {c o} (unasked : s.shutdown = false) (started : s.lifecycle ≠ .created)
      (admitted : (s.mailbox.request c).admits c = true) :
      CallMove s (.save c o) (handOver { s with mailbox := s.mailbox.request c } c o, [])
  | queue {c o} (unasked : s.shutdown = false) (started : s.lifecycle ≠ .created)
      (waits : (s.mailbox.request c).admits c = false) :
      CallMove s (.save c o)
        ({ s with mailbox := s.mailbox.request c, pending := s.pending ++ [(c, o)] }, [])
  | withdraw {c o} (found : s.pending.lookup c = some o)
      (ended : s.shutdown = true ∨ s.mailbox.isClosed = true) :
      CallMove s (.resume c)
        ({ s with
            pending := s.pending.filter fun p => p.1 ≠ c
            mailbox := s.mailbox.withdraw c }, [.returned c (.error .closed)])
  | letIn {c o} (found : s.pending.lookup c = some o) (unasked : s.shutdown = false)
      (admitted : s.mailbox.admits c = true) :
      CallMove s (.resume c)
        (handOver { s with pending := s.pending.filter fun p => p.1 ≠ c } c o, [])
  | collect {c v} (found : s.verdicts.lookup c = some v) :
      CallMove s (.collect c)
        ({ s with verdicts := s.verdicts.filter fun p => p.1 ≠ c }, [.returned c v])
  /-- The event loop has exited without a verdict. -/
  | miss {c} (none : s.verdicts.lookup c = none) (waits : c ∈ s.awaiting)
      (exited : s.loop = .idle .exited) :
      CallMove s (.collect c)
        ({ s with awaiting := s.awaiting.erase c }, [.returned c (.error .closed)])
  | forgo {c o} (found : s.pending.lookup c = some o) :
      CallMove s (.abandon c)
        ({ s with
            pending := s.pending.filter fun p => p.1 ≠ c
            mailbox := s.mailbox.withdraw c }, [.abandoned c])
  | forsake {c} (waits : c ∈ s.awaiting) :
      CallMove s (.abandon c) ({ s with awaiting := s.awaiting.erase c }, [.abandoned c])
  | ignore {c v} (found : s.verdicts.lookup c = some v) :
      CallMove s (.abandon c)
        ({ s with verdicts := s.verdicts.filter fun p => p.1 ≠ c }, [.abandoned c])

theorem save_cases (s : State) (c : Caller) (o : Offer) :
    CallMove s (.save c o) (save s c o) := by
  unfold save
  split
  · rename_i asked
    exact .turnAway (Or.inl ⟨asked, rfl⟩)
  · rename_i hasked
    have unasked : s.shutdown = false := by simpa using hasked
    split
    · rename_i created
      exact .turnAway (Or.inr ⟨unasked, created, rfl⟩)
    · rename_i started
      simp only []
      split
      · rename_i admitted
        exact .enter unasked started admitted
      · rename_i waits
        exact .queue unasked started (by simpa using waits)

theorem resume_cases {s : State} {c : Caller} {m : Moved} (h : resume s c = some m) :
    CallMove s (.resume c) m := by
  unfold resume at h
  split at h
  · cases h
  · rename_i o found
    split at h
    · rename_i ended
      cases h
      exact .withdraw found ended
    · rename_i running
      split at h
      · rename_i admitted
        cases h
        exact .letIn found (by simpa using fun hs => running (Or.inl hs)) admitted
      · cases h

theorem collect_cases {s : State} {c : Caller} {m : Moved} (h : collect s c = some m) :
    CallMove s (.collect c) m := by
  unfold collect at h
  split at h
  · rename_i found
    cases h
    exact .collect found
  · rename_i none
    split at h
    · rename_i hwait
      cases h
      exact .miss none (by simpa using hwait.1) hwait.2
    · cases h

theorem abandon_cases {s : State} {c : Caller} {m : Moved} (h : abandon s c = some m) :
    CallMove s (.abandon c) m := by
  unfold abandon at h
  split at h
  · rename_i hfound
    obtain ⟨o, found⟩ := Option.isSome_iff_exists.mp hfound
    cases h
    exact .forgo found
  · split at h
    · rename_i waits
      cases h
      exact .forsake (by simpa using waits)
    · split at h
      · rename_i hfound
        obtain ⟨v, found⟩ := Option.isSome_iff_exists.mp hfound
        cases h
        exact .ignore found
      · cases h

/-- Is this an action of a call to save? -/
def Action.isOfCall : Action → Bool
  | .save .. | .resume _ | .collect _ | .abandon _ => true
  | _ => false

theorem call_cases {s : State} {a : Action} {m : Moved} (h : step s a = some m)
    (ha : a.isOfCall = true) : CallMove s a m := by
  cases a with
  | save c o => exact Option.some.inj h ▸ save_cases s c o
  | resume c => exact resume_cases h
  | collect c => exact collect_cases h
  | abandon c => exact abandon_cases h
  | _ => cases ha

/-- Is this an event that a call to save brings about? -/
def Event.isOfCall : Event → Bool
  | .returned .. | .abandoned _ => true
  | _ => false

theorem CallMove.isOfCall {s : State} {a : Action} {m : Moved} (h : CallMove s a m) {e : Event}
    (he : e ∈ m.2) : e.isOfCall = true := by
  cases h <;> first | cases he; done | (rw [List.mem_singleton.mp he]; rfl)

theorem CallMove.door_eq {s : State} {a : Action} {m : Moved} (h : CallMove s a m) :
    m.1.door = s.door := by
  cases h <;> rfl

/-! ## The events of the event loop -/

/-- Is this an event that the event loop brings about? -/
def Event.isOfLoop : Event → Bool
  | .pushed .. | .refused .. | .callStarted _ | .callEnded .. | .flushEnded .. | .exited _
  | .logged _ => true
  | _ => false

theorem arrivalEvents_isOfLoop {at_ : Station} {left : Nat} {e : Event}
    (he : e ∈ arrivalEvents at_ left) : e.isOfLoop = true := by
  rw [(mem_arrivalEvents.mp he).2]
  rfl

theorem proceed_isOfLoop {s : State} {why : Reason} {after : Station} {p : Batch.Progress Offer}
    {e : Event} (he : e ∈ (proceed s why after p).2) : e.isOfLoop = true := by
  cases p with
  | waiting f => rw [List.mem_singleton.mp he]; rfl
  | ended o =>
    rcases List.mem_cons.mp he with he | he
    · rw [he]; rfl
    · exact arrivalEvents_isOfLoop he

theorem flush_isOfLoop {s : State} {why : Reason} {after : Station} {e : Event}
    (he : e ∈ (flush s why after).2) : e.isOfLoop = true := by
  unfold flush at he
  split at he
  · exact arrivalEvents_isOfLoop he
  · exact proceed_isOfLoop he

theorem accept_isOfLoop {s : State} {at_ : Station} {c : Caller} {o : Offer} {e : Event}
    (he : e ∈ (accept s at_ c o).2) : e.isOfLoop = true := by
  rcases Nat.lt_trichotomy (s.buffer.length + 1) s.capacity with room | last | full
  · rw [accept_of_room room] at he
    rw [List.mem_singleton.mp he]; rfl
  · rw [accept_of_last last] at he
    rcases List.mem_cons.mp he with he | he
    · rw [he]; rfl
    · exact flush_isOfLoop he
  · rw [accept_of_full (by omega)] at he
    rw [List.mem_singleton.mp he]; rfl

theorem LoopMove.isOfLoop {s : State} {m : Moved} (h : LoopMove s m) {e : Event} (he : e ∈ m.2) :
    e.isOfLoop = true := by
  cases h with
  | close => cases he
  | take => exact accept_isOfLoop he
  | tick => exact flush_isOfLoop he
  | unfollow => rw [List.mem_singleton.mp he]; rfl
  | finish => exact flush_isOfLoop he

theorem AnswerMove.isOfLoop {s : State} {r : Except Storage.Error Unit} {m : Moved}
    (h : AnswerMove s r m) {e : Event} (he : e ∈ m.2) : e.isOfLoop = true := by
  cases h with
  | proceed =>
    simp only [List.mem_cons, List.not_mem_nil, or_false] at he
    rcases he with rfl | rfl <;> rfl
  | settle =>
    rcases List.mem_cons.mp he with he | he
    · rw [he]; rfl
    · rcases List.mem_cons.mp he with he | he
      · rw [he]; rfl
      · exact arrivalEvents_isOfLoop he

end OfferService.Saver
