import OfferService.Proofs.Mailbox
import OfferService.Proofs.Path
import OfferService.Publisher.Step

/-
  OfferService.Proofs.Publisher.Moves

  The moves of a publisher, opened once: `Move` lists what each action can come to, with all that
  was checked before it. The functions after it read the events of a run: which messages were put
  into the queue and by whom, which attempts were begun, and how they ended.
-/
namespace OfferService.Publisher

/-! ## Moves -/

/-- All that an action can come to. -/
inductive Move (s : State) : Action → Moved → Prop
  | turnAway {c e} (asked : s.shutdown = true) :
      Move s (.send c e) (s, [.returned c (.error .closed)])
  | enter {c e} (admitted : (s.queue.request c).admits c = true) (unasked : s.shutdown = false) :
      Move s (.send c e) (handOver { s with queue := s.queue.request c } c e)
  | wait {c e} (unasked : s.shutdown = false) :
      Move s (.send c e)
        ({ s with queue := s.queue.request c, pending := s.pending ++ [(c, e)] }, [])
  | withdraw {c e} (found : s.pending.lookup c = some e)
      (ended : s.shutdown = true ∨ s.queue.isClosed = true) :
      Move s (.resume c)
        ({ s with
            pending := s.pending.filter fun p => p.1 ≠ c
            queue := s.queue.withdraw c }, [.returned c (.error .closed)])
  | letIn {c e} (found : s.pending.lookup c = some e) (admitted : s.queue.admits c = true)
      (unasked : s.shutdown = false) :
      Move s (.resume c)
        (handOver { s with pending := s.pending.filter fun p => p.1 ≠ c } c e)
  /-- The first caller takes it on to wait for the task. -/
  | closeFirst {c} (first : s.hasCloser = false) :
      Move s (.beginClose c)
        ({ s with shutdown := true, hasCloser := true, closer := some c }, [.closeBegan c])
  | closeLater {c} (later : s.hasCloser = true) :
      Move s (.beginClose c) ({ s with shutdown := true }, [.closeBegan c, .closeReturned c])
  | closeEnd {c log} (owner : s.closer = some c) (exited : s.work = .idle .exited) :
      Move s (.resumeClose c) ({ s with closer := none }, [.logged log, .closeReturned c])
  | drop : Move s .drop ({ s with shutdown := true }, [.dropped])
  /-- The task sees that the publisher closes, and lets no more messages in. -/
  | shut (idle : s.work = .idle .serving) (asked : s.shutdown = true) :
      Move s .task ({ s with work := .idle .draining, queue := s.queue.close }, [])
  -- How many messages were drained is for the log only, so it is left open here.
  | take {at_ c e queue n} (idle : s.work = .idle at_) (alive : at_ ≠ .exited)
      (next : s.queue.take? = some ((c, e), queue)) :
      Move s .task
        ({ s with queue, drained := n, work := .attempting e 0 at_ }, [.attemptStarted e])
  | exit (idle : s.work = .idle .draining) (empty : s.queue.take? = none) :
      Move s .task ({ s with work := .idle .exited }, [.exited s.drained])
  | retry {e failures after} (pausing : s.work = .pausing e failures after) :
      Move s .task ({ s with work := .attempting e failures after }, [.attemptStarted e])
  | deliver {e failures after} (busy : s.work = .attempting e failures after) :
      Move s (.answer (.ok ())) ({ s with work := .idle after }, [.attemptEnded e (.ok ())])
  | fail {e failures after cause} (busy : s.work = .attempting e failures after)
      (more : failures < pauses.length) :
      Move s (.answer (.error cause))
        ({ s with work := .pausing e (failures + 1) after }, [.attemptEnded e (.error cause)])
  | giveUp {e failures after cause} (busy : s.work = .attempting e failures after)
      (last : pauses.length ≤ failures) :
      Move s (.answer (.error cause))
        ({ s with work := .idle after }, [.attemptEnded e (.error cause), .gaveUp e cause])

theorem send_cases (s : State) (c : Caller) (e : Envelope) :
    Move s (.send c e) (send s c e) := by
  unfold send
  split
  · rename_i asked
    exact .turnAway asked
  · rename_i hasked
    have unasked : s.shutdown = false := by simpa using hasked
    simp only []
    split
    · rename_i admitted
      exact .enter admitted unasked
    · exact .wait unasked

theorem resume_cases {s : State} {c : Caller} {m : Moved} (h : resume s c = some m) :
    Move s (.resume c) m := by
  unfold resume at h
  split at h
  · cases h
  · rename_i e found
    split at h
    · rename_i ended
      cases h
      exact .withdraw found ended
    · rename_i running
      split at h
      · rename_i admitted
        cases h
        exact .letIn found admitted (by simpa using fun hs => running (Or.inl hs))
      · cases h

theorem beginClose_cases (s : State) (c : Caller) : Move s (.beginClose c) (beginClose s c) := by
  unfold beginClose
  split
  · rename_i later
    exact .closeLater later
  · rename_i first
    exact .closeFirst (by simpa using first)

theorem resumeClose_cases {s : State} {c : Caller} {m : Moved} (h : resumeClose s c = some m) :
    Move s (.resumeClose c) m := by
  unfold resumeClose at h
  split at h
  · rename_i hboth
    cases h
    exact .closeEnd hboth.1 hboth.2
  · cases h

theorem taskMove_cases {s : State} {m : Moved} (h : taskMove s = some m) : Move s .task m := by
  unfold taskMove at h
  split at h
  · -- Serving: the end comes before messages.
    rename_i idle
    split at h
    · rename_i asked
      cases h
      exact .shut idle asked
    · split at h
      · rename_i next
        cases h
        exact .take idle (by decide) next
      · cases h
  · -- Draining: messages, then the end.
    rename_i idle
    split at h
    · rename_i next
      cases h
      exact .take idle (by decide) next
    · rename_i empty
      cases h
      exact .exit idle empty
  · rename_i pausing
    cases h
    exact .retry pausing
  · cases h

theorem answer_cases {s : State} {r : Verdict} {m : Moved} (h : answer s r = some m) :
    Move s (.answer r) m := by
  unfold answer at h
  split at h
  · rename_i busy
    split at h
    · cases h
      exact .deliver busy
    · split at h
      · rename_i more
        cases h
        exact .fail busy more
      · rename_i last
        cases h
        exact .giveUp busy (Nat.le_of_not_lt last)
  · cases h

/-- All that can be done to a publisher. -/
theorem move_cases {s : State} {a : Action} {m : Moved} (h : step s a = some m) : Move s a m := by
  cases a with
  | send c e => exact Option.some.inj h ▸ send_cases s c e
  | resume c => exact resume_cases h
  | beginClose c => exact Option.some.inj h ▸ beginClose_cases s c
  | resumeClose c => exact resumeClose_cases h
  | drop => exact Option.some.inj h ▸ .drop
  | task => exact taskMove_cases h
  | answer r => exact answer_cases h

/-! ## Calls -/

/-- The call to send that an action begins. -/
def Action.begun : Action → List (Caller × Envelope)
  | .send c e => [(c, e)]
  | _ => []

/-- The calls to send that were begun, each by its caller. -/
def sends (as : List Action) : List (Caller × Envelope) := as.flatMap Action.begun

@[simp] theorem sends_append (as bs : List Action) : sends (as ++ bs) = sends as ++ sends bs :=
  List.flatMap_append

@[simp] theorem sends_singleton (a : Action) : sends [a] = a.begun := List.flatMap_singleton _ _

/-- No caller begins two calls to send. -/
def Distinct (as : List Action) : Prop := ((sends as).map (·.1)).Nodup

/-! ## Events -/

/-- An attempt to publish a message, and how the sink answered it. -/
structure Attempt where
  envelope : Envelope
  verdict : Verdict

namespace Event

/-- The message that was put into the queue, and whose it is. -/
def entry : Event → List (Caller × Envelope)
  | .queued c e => [(c, e)]
  | _ => []

/-- The caller whose call to send returned well. -/
def thanked : Event → List Caller
  | .returned c (.ok ()) => [c]
  | _ => []

/-- The message that the sink was given. -/
def start : Event → List Envelope
  | .attemptStarted e => [e]
  | _ => []

/-- The attempt that ended. -/
def attempt : Event → List Attempt
  | .attemptEnded e r => [⟨e, r⟩]
  | _ => []

/-- The message that was dropped. -/
def loss : Event → List Envelope
  | .gaveUp e _ => [e]
  | _ => []

/-- The caller who began to close the publisher. -/
def closing : Event → List Caller
  | .closeBegan c => [c]
  | _ => []

end Event

/-- The messages put into the queue, in that order, each with its caller. -/
def queued (es : List Event) : List (Caller × Envelope) := es.flatMap Event.entry

/-- The callers whose calls to send returned well, in that order. -/
def thanked (es : List Event) : List Caller := es.flatMap Event.thanked

/-- The messages the sink was given, once for each attempt. -/
def starts (es : List Event) : List Envelope := es.flatMap Event.start

/-- The attempts that ended, in that order. -/
def attempts (es : List Event) : List Attempt := es.flatMap Event.attempt

/-- The messages that were dropped, in that order. -/
def losses (es : List Event) : List Envelope := es.flatMap Event.loss

/-- The callers who began to close the publisher, in that order. -/
def closings (es : List Event) : List Caller := es.flatMap Event.closing

section

variable (es fs : List Event)

@[simp] theorem queued_append : queued (es ++ fs) = queued es ++ queued fs := List.flatMap_append

@[simp] theorem thanked_append : thanked (es ++ fs) = thanked es ++ thanked fs :=
  List.flatMap_append

@[simp] theorem starts_append : starts (es ++ fs) = starts es ++ starts fs := List.flatMap_append

@[simp] theorem attempts_append : attempts (es ++ fs) = attempts es ++ attempts fs :=
  List.flatMap_append

@[simp] theorem losses_append : losses (es ++ fs) = losses es ++ losses fs := List.flatMap_append

@[simp] theorem closings_append : closings (es ++ fs) = closings es ++ closings fs :=
  List.flatMap_append

end

end OfferService.Publisher
