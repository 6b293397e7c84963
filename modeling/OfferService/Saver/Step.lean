import OfferService.Saver.Basic

/-
  OfferService.Saver.Step

  The moves of a saver. Each action is one uninterrupted move of one party: a caller, the event
  loop, the ticker, storage, or whoever holds the saver. An action that cannot be taken in a state
  gives nothing; who acts when is left open.

  What a caller does from one wait to the next is a single action: it looks whether the saver is
  closed, takes a place in the mailbox and puts its offer there. That somebody closes the saver in
  the middle of this, on another thread, between the place and the offer, is not described here; a
  close comes before all of it or after all of it.
-/
namespace OfferService.Saver

/-- A state, and what happened on the way to it. -/
abbrev Moved := State × List Event

/-! ## Flushes -/

/-- The event loop goes on at a station after a flush, or exits. -/
def arrive (s : State) (at_ : Station) : Moved :=
  ({ s with loop := .idle at_ }, if at_ = .exited then [.exited s.buffer.length] else [])

/-- What becomes of a flush: it waits for storage, or it has ended. -/
def proceed (s : State) (why : Reason) (after : Station) : Batch.Progress Offer → Moved
  | .waiting f => ({ s with loop := .flushing why f after }, [.callStarted f.current])
  | .ended o =>
    let (s, events) :=
      arrive { s with buffer := o.remaining, shown := o.remaining.length } after
    (s, .flushEnded why o :: events)

/-- Flushes the buffer unless it is empty. -/
def flush (s : State) (why : Reason) (after : Station) : Moved :=
  if s.buffer.isEmpty then arrive s after
  else proceed { s with buffer := [] } why after (Batch.Flush.start s.buffer s.groups)

/-- Storage answers the batch it was given. -/
def answer (s : State) (r : Except Storage.Error Unit) : Option Moved :=
  match s.loop with
  | .flushing why f after =>
    let (s, events) := proceed s why after (f.answer r)
    some (s, .callEnded f.current r :: events)
  | _ => none

/-! ## The event loop -/

/-- Sends a verdict to a caller who still waits for it. -/
def reply (s : State) (c : Caller) (v : Verdict) : State :=
  if s.awaiting.contains c then
    { s with awaiting := s.awaiting.erase c, verdicts := s.verdicts ++ [(c, v)] }
  else s

/-- The event loop, at a station, takes an offer: it is refused if the buffer is full, and flushed
    with all others if it fills the buffer. -/
def accept (s : State) (at_ : Station) (c : Caller) (o : Offer) : Moved :=
  if s.capacity ≤ s.buffer.length then
    (reply s c (.error (.capacityReached s.capacity)), [.refused c o])
  else
    let buffer := s.buffer ++ [o]
    let s := reply { s with buffer, shown := buffer.length } c (.ok ())
    if s.capacity ≤ buffer.length then
      let (s, events) := flush s .capacity at_
      (s, .pushed c o :: events)
    else (s, [.pushed c o])

/-- The event loop looks at its stream of ticks. -/
def onTick (s : State) : Option Moved :=
  if s.followsTicks then
    match s.ticker.next s.stream with
    | some (.tick n) => some (flush { s with stream := ⟨n⟩ } .periodic .serving)
    | some .ended =>
      some ({ s with followsTicks := false },
        [.logged [⟨.debug, .saver, "Tick stream ended, periodic flushing stopped"⟩]])
    | none => none
  else none

/-- One move of the event loop. The end comes before requests, and requests before ticks. -/
def loopMove (s : State) : Option Moved :=
  match s.loop with
  | .idle .serving =>
    if s.shutdown then
      some ({ s with loop := .idle .draining, mailbox := s.mailbox.close }, [])
    else
      match s.mailbox.take? with
      | some ((c, o), mailbox) => some (accept { s with mailbox } .serving c o)
      | none => onTick s
  | .idle .draining =>
    match s.mailbox.take? with
    | some ((c, o), mailbox) => some (accept { s with mailbox } .draining c o)
    | none => some (flush s .final .exited)
  | _ => none

/-! ## Callers -/

/-- Starts the ticker and the event loop. -/
def init (s : State) : Moved :=
  match s.lifecycle with
  | .created =>
    match s.ticker.start with
    | .error e => (s, [.initialized (.error (.ticker e))])
    | .ok ticker =>
      ({ s with
        lifecycle := .initialized, ticker, stream := ticker.stream, loop := .idle .serving },
        [.logged (ticker.startLog ++
            [⟨.info, .saver, "Saver initialized with capacity " ++ toString s.capacity⟩]),
          .initialized (.ok ())])
  | _ => (s, [.initialized (.error .alreadyInitialized)])

/-- A caller with a place in the mailbox hands its offer over. -/
def handOver (s : State) (c : Caller) (o : Offer) : State :=
  { s with mailbox := s.mailbox.enter c o, awaiting := s.awaiting ++ [c] }

/-- A caller begins to save an offer. -/
def save (s : State) (c : Caller) (o : Offer) : Moved :=
  if s.shutdown then (s, [.returned c (.error .closed)])
  else if s.lifecycle = .created then (s, [.returned c (.error .notInitialized)])
  else
    let s := { s with mailbox := s.mailbox.request c }
    if s.mailbox.admits c then (handOver s c o, [])
    else ({ s with pending := s.pending ++ [(c, o)] }, [])

/-- A caller who waited for a place looks again. -/
def resume (s : State) (c : Caller) : Option Moved :=
  match s.pending.lookup c with
  | none => none
  | some o =>
    let left := { s with pending := s.pending.filter fun p => p.1 ≠ c }
    if s.shutdown ∨ s.mailbox.isClosed then
      some ({ left with mailbox := s.mailbox.withdraw c }, [.returned c (.error .closed)])
    else if s.mailbox.admits c then some (handOver left c o, [])
    else none

/-- A caller picks up its verdict. A request that the event loop left behind got none. -/
def collect (s : State) (c : Caller) : Option Moved :=
  match s.verdicts.lookup c with
  | some v =>
    some ({ s with verdicts := s.verdicts.filter fun p => p.1 ≠ c }, [.returned c v])
  | none =>
    if s.awaiting.contains c ∧ s.loop = .idle .exited then
      some ({ s with awaiting := s.awaiting.erase c }, [.returned c (.error .closed)])
    else none

/-- A caller gives up. An offer that it has handed over stays on its way. -/
def abandon (s : State) (c : Caller) : Option Moved :=
  if (s.pending.lookup c).isSome then
    some ({ s with
      pending := s.pending.filter fun p => p.1 ≠ c
      mailbox := s.mailbox.withdraw c }, [.abandoned c])
  else if s.awaiting.contains c then
    some ({ s with awaiting := s.awaiting.erase c }, [.abandoned c])
  else if (s.verdicts.lookup c).isSome then
    some ({ s with verdicts := s.verdicts.filter fun p => p.1 ≠ c }, [.abandoned c])
  else none

/-! ## Closing -/

/-- A caller begins to close the saver. The first one who finds it initialized closes it; all
    others wait for that. -/
def beginClose (s : State) (c : Caller) : Moved :=
  let t := { s with shutdown := true, lifecycle := .closed }
  match s.lifecycle with
  | .created =>
    ({ t with stopped := true, mailbox := s.mailbox.close, ticker := s.ticker.drop },
      [.closeBegan c, .logged [⟨.debug, .saver, "Saver closed before initialization"⟩],
        .closeReturned c])
  | .initialized => ({ t with closing := .joining c }, [.closeBegan c])
  | .closed => ({ t with bystanders := s.bystanders ++ [c] }, [.closeBegan c])

/-- The last step of closing. -/
def endClose (s : State) (c : Caller) (log : List Log.Entry) : Moved :=
  ({ s with closing := .nobody, stopped := true },
    [.logged (log ++ [⟨.info, .saver, "Saver closed"⟩]), .closeReturned c])

/-- A caller who closes the saver looks again. -/
def resumeClose (s : State) (c : Caller) : Option Moved :=
  if s.closing = .joining c then
    if s.loop = .idle .exited then
      match s.ticker.beginClose with
      | .ok ticker => some ({ s with ticker, closing := .stopping c }, [])
      | .error e => some (endClose s c [⟨.warn, .saver, "Failed to stop notifier: " ++ e.message⟩])
    else none
  else if s.closing = .stopping c then
    if s.ticker.isDown then
      some (endClose { s with ticker := s.ticker.endClose } c s.ticker.closeLog)
    else none
  else if s.stopped ∧ s.bystanders.contains c then
    some ({ s with bystanders := s.bystanders.erase c }, [.closeReturned c])
  else none

/-- Nobody holds the saver any more. -/
def drop (s : State) : Moved :=
  ({ s with shutdown := true, ticker := s.ticker.drop }, [.dropped])

/-! ## All actions -/

/-- What can be done to a saver. -/
inductive Action where
  | init
  | save (c : Caller) (o : Offer)
  | resume (c : Caller)
  | collect (c : Caller)
  | abandon (c : Caller)
  | beginClose (c : Caller)
  | resumeClose (c : Caller)
  | drop
  /-- The event loop moves. -/
  | loop
  /-- Storage answers the batch it was given. -/
  | answer (r : Except Storage.Error Unit)
  /-- The ticker's task moves. -/
  | ticker (now : Nat)
  deriving DecidableEq

/-- Takes an action, if it can be taken. -/
def step (s : State) : Action → Option Moved
  | .init => some (init s)
  | .save c o => some (save s c o)
  | .resume c => resume s c
  | .collect c => collect s c
  | .abandon c => abandon s c
  | .beginClose c => some (beginClose s c)
  | .resumeClose c => resumeClose s c
  | .drop => some (drop s)
  | .loop => loopMove s
  | .answer r => answer s r
  | .ticker now =>
    (s.ticker.move now).map fun ticker => ({ s with ticker }, [.logged s.ticker.moveLog])

end OfferService.Saver
