import OfferService.Proofs.Mailbox
import OfferService.Proofs.Saver.Core

/-
  OfferService.Proofs.Saver.Desk

  The part of a saver that callers of save have to do with: who waits for a place, which requests
  are in the mailbox, who waits for a verdict, and which verdicts are on their way. `Desk.Step`
  lists all that any action can do to it, with the call that the action begins and its events.

  The invariant `Desk.Sound` says that nobody waits for a verdict without a request in the mailbox.
  The mailbox is closed before the event loop drains it and empty before it exits, so nobody waits
  for a verdict after that.
-/
namespace OfferService.Saver

/-! ## The desk -/

/-- The part of a saver that callers of save have to do with. -/
structure Desk where
  pending : List (Caller × Offer)
  items : List (Caller × Offer)
  awaiting : List Caller
  verdicts : List (Caller × Verdict)
  isClosed : Bool
  station : Option Station

/-- The desk of a saver. -/
def State.desk (s : State) : Desk :=
  ⟨s.pending, s.mailbox.items, s.awaiting, s.verdicts, s.mailbox.isClosed, s.loop.station⟩

theorem station_of_idle {s : State} {at_ : Station} (idle : s.loop = .idle at_) :
    s.desk.station = some at_ := by
  show s.loop.station = some at_
  rw [idle]
  rfl

namespace Desk

/-- The desk after a caller has left the line for a place. -/
def leave (d : Desk) (c : Caller) : Desk :=
  { d with pending := d.pending.filter fun p => p.1 ≠ c }

/-- The desk after a caller has handed over its offer. -/
def handOver (d : Desk) (c : Caller) (o : Offer) : Desk :=
  { d with items := d.items ++ [(c, o)], awaiting := d.awaiting ++ [c] }

/-- The desk after the event loop has sent a verdict. -/
def reply (d : Desk) (c : Caller) (v : Verdict) : Desk :=
  if c ∈ d.awaiting then
    { d with awaiting := d.awaiting.erase c, verdicts := d.verdicts ++ [(c, v)] }
  else d

end Desk

/-- Whoever gets this error was turned away, and not by the event loop. -/
def TurnsAway (e : SaverError) : Prop := e = .closed ∨ e = .notInitialized

/-- What an action can do to the desk, which call it begins, and with which events. -/
inductive Desk.Step (d : Desk) : List (Caller × Offer) → List Event → Desk → Prop
  /-- Others move. -/
  | rest {es} (aside : Aside es) : Desk.Step d [] es d
  | shut {es} (aside : Aside es) : Desk.Step d [] es { d with isClosed := true }
  | wake {es} (aside : Aside es) (absent : d.station = none) :
      Desk.Step d [] es { d with station := some .serving }
  | drain (serving : d.station = some .serving) :
      Desk.Step d [] [] { d with isClosed := true, station := some .draining }
  /-- The event loop has taken all requests. -/
  | exit {es} (aside : Aside es) (draining : d.station = some .draining) (empty : d.items = []) :
      Desk.Step d [] es { d with station := some .exited }
  | push {c o rest es} (aside : Aside es) (alive : d.station ≠ some .exited)
      (first : d.items = (c, o) :: rest) :
      Desk.Step d [] (.pushed c o :: es) ({ d with items := rest }.reply c (.ok ()))
  | refuse {c o rest n} (alive : d.station ≠ some .exited) (first : d.items = (c, o) :: rest) :
      Desk.Step d [] [.refused c o]
        ({ d with items := rest }.reply c (.error (.capacityReached n)))
  | turnAway {c o e} (why : TurnsAway e) :
      Desk.Step d [(c, o)] [.returned c (.error e)] d
  | enter {c o} (unlocked : d.isClosed = false) : Desk.Step d [(c, o)] [] (d.handOver c o)
  | queue {c o} : Desk.Step d [(c, o)] [] { d with pending := d.pending ++ [(c, o)] }
  | letIn {c o} (found : d.pending.lookup c = some o) (unlocked : d.isClosed = false) :
      Desk.Step d [] [] ((d.leave c).handOver c o)
  | withdraw {c o e} (found : d.pending.lookup c = some o)
      (gone : e = .returned c (.error .closed) ∨ e = .abandoned c) :
      Desk.Step d [] [e] (d.leave c)
  | collect {c v e} (found : d.verdicts.lookup c = some v)
      (gone : e = .returned c v ∨ e = .abandoned c) :
      Desk.Step d [] [e] { d with verdicts := d.verdicts.filter fun p => p.1 ≠ c }
  | forsake {c e} (waits : c ∈ d.awaiting)
      (gone : e = .abandoned c ∨ e = .returned c (.error .closed) ∧ d.station = some .exited) :
      Desk.Step d [] [e] { d with awaiting := d.awaiting.erase c }

/-! ## What any action does to the desk -/

@[simp] theorem reply_desk (s : State) (c : Caller) (v : Verdict) :
    (reply s c v).desk = s.desk.reply c v := by
  unfold reply Desk.reply
  split
  · rename_i waits
    have hc : c ∈ s.desk.awaiting := List.contains_iff_mem.mp waits
    rw [if_pos hc]
    rfl
  · rename_i idle
    have hc : c ∉ s.desk.awaiting := fun h => idle (List.contains_iff_mem.mpr h)
    rw [if_neg hc]

theorem flush_desk (s : State) (why : Reason) (after : Station) :
    (flush s why after).1.desk = { s.desk with station := some after } := by
  unfold flush
  split
  · rfl
  · cases Batch.Flush.start s.buffer s.groups <;> rfl

theorem flush_aside (s : State) (why : Reason) (after : Station) :
    Aside (flush s why after).2 := by
  unfold flush arrive
  split
  · split <;> simp [Aside, Event.isOfDesk]
  · cases Batch.Flush.start s.buffer s.groups with
    | waiting f => simp [proceed, Aside, Event.isOfDesk]
    | ended o =>
      unfold proceed arrive
      split <;> simp [Aside, Event.isOfDesk]

/-- The event loop takes the first request from its mailbox. -/
theorem accept_desk {s : State} {at_ : Station} {c : Caller} {o : Offer}
    {mailbox : Mailbox Caller Offer} (idle : s.loop = .idle at_) (alive : at_ ≠ .exited)
    (next : s.mailbox.take? = some ((c, o), mailbox)) :
    Desk.Step s.desk [] (accept { s with mailbox } at_ c o).2
      (accept { s with mailbox } at_ c o).1.desk := by
  obtain ⟨hitems, hclosed⟩ := Mailbox.take?_eq_some next
  have hstation := station_of_idle idle
  have halive : s.desk.station ≠ some .exited := by
    rw [hstation]
    intro h
    exact alive (Option.some.inj h)
  have hdesk : ({ s with mailbox } : State).desk = { s.desk with items := mailbox.items } := by
    rw [State.desk, State.desk, hclosed]
  have hpush : (pushOffer { s with mailbox } c o).desk =
      { s.desk with items := mailbox.items }.reply c (.ok ()) := by
    rw [pushOffer, reply_desk, ← hdesk]
    rfl
  -- The desk does not see whether a flush follows, but it sees whether the offer is refused.
  rcases Nat.lt_trichotomy (s.buffer.length + 1) s.capacity with room | last | full
  · rw [accept_of_room (s := { s with mailbox }) room, hpush]
    exact .push (by simp [Aside]) halive hitems
  · rw [accept_of_last (s := { s with mailbox }) last, flush_desk, hpush]
    have hsame : ({ s.desk with items := mailbox.items }.reply c (.ok ())).station = some at_ := by
      unfold Desk.reply
      split <;> exact hstation
    rw [← hsame]
    exact .push (flush_aside _ _ _) halive hitems
  · rw [accept_of_full (s := { s with mailbox }) (by show s.capacity ≤ s.buffer.length; omega),
      reply_desk, hdesk]
    exact .refuse halive hitems

theorem LoopMove.desk_step {s : State} {m : Moved} (h : LoopMove s m) :
    Desk.Step s.desk [] m.2 m.1.desk := by
  cases h with
  | close idle =>
    exact .drain (station_of_idle idle)
  | take idle alive _ next => exact accept_desk idle alive next
  | @tick n idle =>
    rw [flush_desk]
    rw [← station_of_idle idle]
    exact .rest (flush_aside _ _ _)
  | unfollow => exact .rest (by simp [Aside, Event.isOfDesk])
  | finish idle empty =>
    rw [flush_desk]
    exact .exit (flush_aside _ _ _) (station_of_idle idle) (Mailbox.take?_eq_none empty)

theorem AnswerMove.desk_step {s : State} {r : Except Storage.Error Unit} {m : Moved}
    (h : AnswerMove s r m) : Desk.Step s.desk [] m.2 m.1.desk := by
  cases h with
  | @proceed why f g after busy answered =>
    have hsame : ({ s with loop := .flushing why g after } : State).desk = s.desk := by
      rw [State.desk, State.desk, busy]
      rfl
    rw [hsame]
    exact .rest (by simp [Aside, Event.isOfDesk])
  | @settle why f after o busy answered =>
    have hsame : ({ s with
        loop := .idle after, buffer := o.remaining, shown := o.remaining.length } : State).desk =
        s.desk := by
      rw [State.desk, State.desk, busy]
      rfl
    rw [hsame]
    refine .rest ?_
    unfold arrivalEvents
    split <;> simp [Aside, Event.isOfDesk]

/-- A caller with a place in the mailbox hands over its offer. -/
theorem handOver_desk {s : State} {c : Caller} (admitted : s.mailbox.admits c = true) (o : Offer) :
    (handOver s c o).desk = s.desk.handOver c o := by
  rw [State.desk, handOver, Mailbox.isClosed_enter, Mailbox.items_enter admitted]
  rfl

/-- A caller leaves the line for a place. -/
theorem withdraw_desk (s : State) (c : Caller) :
    ({ s with
      pending := s.pending.filter fun p => p.1 ≠ c
      mailbox := s.mailbox.withdraw c } : State).desk = s.desk.leave c := by
  rw [State.desk, Mailbox.items_withdraw, Mailbox.isClosed_withdraw]
  rfl

theorem CallMove.desk_step {s : State} {a : Action} {m : Moved} (h : CallMove s a m) :
    Desk.Step s.desk a.begun m.2 m.1.desk := by
  cases h with
  | turnAway why =>
    refine .turnAway ?_
    rcases why with ⟨-, he⟩ | ⟨-, -, he⟩
    · exact Or.inl he
    · exact Or.inr he
  | @enter c o unasked started admitted =>
    have hsame : ({ s with mailbox := s.mailbox.request c } : State).desk = s.desk := by
      rw [State.desk, State.desk, Mailbox.items_request, Mailbox.isClosed_request]
    have hunlocked := Mailbox.isClosed_of_admits admitted
    rw [Mailbox.isClosed_request] at hunlocked
    rw [handOver_desk admitted, hsame]
    exact .enter hunlocked
  | @queue c o =>
    have hsame : ({ s with
        mailbox := s.mailbox.request c, pending := s.pending ++ [(c, o)] } : State).desk =
        { s.desk with pending := s.desk.pending ++ [(c, o)] } := by
      rw [State.desk, State.desk, Mailbox.items_request, Mailbox.isClosed_request]
    rw [hsame]
    exact .queue
  | @withdraw c o found =>
    rw [withdraw_desk]
    exact .withdraw found (Or.inl rfl)
  | @letIn c o found unasked admitted =>
    have hleave : ({ s with pending := s.pending.filter fun p => p.1 ≠ c } : State).desk =
        s.desk.leave c := rfl
    rw [handOver_desk (s := { s with pending := s.pending.filter fun p => p.1 ≠ c }) admitted,
      hleave]
    exact .letIn found (Mailbox.isClosed_of_admits admitted)
  | collect found => exact .collect found (Or.inl rfl)
  | miss none waits exited =>
    exact .forsake waits (Or.inr ⟨rfl, station_of_idle exited⟩)
  | @forgo c o found =>
    rw [withdraw_desk]
    exact .withdraw found (Or.inr rfl)
  | forsake waits => exact .forsake waits (Or.inl rfl)
  | ignore found => exact .collect found (Or.inr rfl)

/-- Starting and closing a saver does not come near the requests. -/
theorem DoorMove.desk_step {s : State} {m : Moved} (hl : s.lifecycle = .created → s.loop = .absent)
    (h : DoorMove s m) : Desk.Step s.desk [] m.2 m.1.desk := by
  cases h with
  | move _ _ aside => exact .rest aside
  | start _ fresh =>
    exact .wake (by simp [Aside, Event.isOfDesk]) (by show s.loop.station = _; rw [hl fresh]; rfl)
  | shut _ _ aside => exact .shut aside

/-- All that an action can do to the desk. -/
theorem desk_step {s t : State} {a : Action} {es : List Event}
    (hl : s.lifecycle = .created → s.loop = .absent) (h : step s a = some (t, es)) :
    Desk.Step s.desk a.begun es t.desk := by
  cases move_cases h with
  | loop move => exact move.desk_step
  | answer move => exact move.desk_step
  | call move => exact move.desk_step
  | door other move =>
    rw [other]
    exact move.desk_step hl

/-! ## The invariant of the desk -/

/-- What every desk keeps to: a caller who waits for a verdict has a request in the mailbox, and
    the mailbox is closed while the event loop drains it, and empty once that is done. -/
structure Desk.Sound (d : Desk) : Prop where
  waits : ∀ c, d.awaiting.count c ≤ (d.items.map (·.1)).count c
  closed : d.station = some .draining ∨ d.station = some .exited → d.isClosed = true
  empty : d.station = some .exited → d.items = []

namespace Desk

variable {d d' : Desk}

@[simp] theorem reply_awaiting (d : Desk) (c : Caller) (v : Verdict) :
    (d.reply c v).awaiting = d.awaiting.erase c := by
  unfold reply
  split
  · rfl
  · rename_i hc
    exact (List.erase_of_not_mem hc).symm

@[simp] theorem reply_items (d : Desk) (c : Caller) (v : Verdict) :
    (d.reply c v).items = d.items := by
  unfold reply
  split <;> rfl

@[simp] theorem reply_pending (d : Desk) (c : Caller) (v : Verdict) :
    (d.reply c v).pending = d.pending := by
  unfold reply
  split <;> rfl

@[simp] theorem reply_isClosed (d : Desk) (c : Caller) (v : Verdict) :
    (d.reply c v).isClosed = d.isClosed := by
  unfold reply
  split <;> rfl

@[simp] theorem reply_station (d : Desk) (c : Caller) (v : Verdict) :
    (d.reply c v).station = d.station := by
  unfold reply
  split <;> rfl

/-- Once the event loop has exited, nobody waits for a verdict. -/
theorem Sound.awaiting_eq_nil (hd : d.Sound) (exited : d.station = some .exited) :
    d.awaiting = [] := by
  apply List.eq_nil_iff_forall_not_mem.mpr
  intro c hc
  -- Whoever waits has a request in the mailbox, and that is empty.
  have hcount := hd.waits c
  have hpos : 0 < d.awaiting.count c := List.count_pos_iff.mpr hc
  rw [hd.empty exited, List.map_nil, List.count_nil] at hcount
  omega

/-- The first request is taken from the mailbox, and its caller told. -/
theorem Sound.reply {c : Caller} {o : Offer} {rest : List (Caller × Offer)} (hd : d.Sound)
    (alive : d.station ≠ some .exited) (first : d.items = (c, o) :: rest) (v : Verdict) :
    ({ d with items := rest }.reply c v).Sound := by
  refine ⟨?_, ?_, ?_⟩
  · intro k
    -- Who is told had one request more in the mailbox before.
    have hcount := hd.waits k
    simp only [first, List.map_cons, List.count_cons] at hcount
    rw [reply_awaiting, reply_items, List.count_erase]
    show d.awaiting.count k - _ ≤ (rest.map (·.1)).count k
    split at hcount
    · rename_i hk
      rw [if_pos hk]
      omega
    · omega
  · rw [reply_station, reply_isClosed]
    exact hd.closed
  · rw [reply_station]
    exact fun exited => absurd exited alive

/-- A request enters the mailbox, and its caller waits. -/
theorem Sound.handOver (hd : d.Sound) (unlocked : d.isClosed = false) (c : Caller) (o : Offer) :
    (d.handOver c o).Sound := by
  refine ⟨?_, hd.closed, ?_⟩
  · intro k
    have hcount := hd.waits k
    show (d.awaiting ++ [c]).count k ≤ ((d.items ++ [(c, o)]).map (·.1)).count k
    rw [List.map_append, List.count_append, List.count_append]
    exact Nat.add_le_add_right hcount _
  · -- The mailbox of an event loop that has exited is closed, so nobody gets in.
    intro exited
    have hclosed := hd.closed (Or.inr exited)
    rw [unlocked] at hclosed
    cases hclosed

theorem Sound.step {calls : List (Caller × Offer)} {es : List Event} (hd : d.Sound)
    (h : Desk.Step d calls es d') : d'.Sound := by
  cases h with
  | rest => exact hd
  | shut => exact ⟨hd.waits, fun _ => rfl, hd.empty⟩
  | wake => exact ⟨hd.waits, nofun, nofun⟩
  | drain => exact ⟨hd.waits, fun _ => rfl, nofun⟩
  | exit aside draining empty =>
    exact ⟨hd.waits, fun _ => hd.closed (Or.inl draining), fun _ => empty⟩
  | push aside alive first => exact hd.reply alive first _
  | refuse alive first => exact hd.reply alive first _
  | turnAway => exact hd
  | enter unlocked => exact hd.handOver unlocked _ _
  | queue => exact ⟨hd.waits, hd.closed, hd.empty⟩
  | @letIn c o found unlocked =>
    have hleft : (d.leave c).Sound := ⟨hd.waits, hd.closed, hd.empty⟩
    exact hleft.handOver unlocked c o
  | withdraw => exact ⟨hd.waits, hd.closed, hd.empty⟩
  | collect => exact ⟨hd.waits, hd.closed, hd.empty⟩
  | @forsake c e waits gone =>
    refine ⟨?_, hd.closed, hd.empty⟩
    intro k
    show (d.awaiting.erase c).count k ≤ (d.items.map (·.1)).count k
    exact Nat.le_trans (List.erase_sublist.count_le k) (hd.waits k)

end Desk

/-! ## Whole runs -/

/-- The desk of a new saver. -/
def Desk.empty : Desk := ⟨[], [], [], [], false, none⟩

theorem Desk.sound_empty : Desk.empty.Sound := ⟨fun _ => Nat.le_refl _, nofun, nofun⟩

section

variable {capacity groups : Nat} {ticker : Ticker} {s₀ s : State} {as : List Action}
  {es : List Event}

theorem desk_of_new (hnew : new capacity groups ticker = .ok s₀) : s₀.desk = .empty := by
  obtain ⟨-, -, rfl⟩ := new_eq_ok hnew
  rfl

theorem desk_sound_of_path (h : Path step s₀ as es s) (hnew : new capacity groups ticker = .ok s₀) :
    s.desk.Sound := by
  induction h with
  | refl =>
    rw [desk_of_new hnew]
    exact Desk.sound_empty
  | tail hrun hstep ih =>
    exact ih.step (desk_step (coherent_of_path hrun (coherent_of_new hnew)).absent_of_created hstep)

/-- What holds of an empty desk, and is kept by all that can be done to a sound one, holds of the
    desk in every run from a new saver. -/
theorem desk_induction {P : List (Caller × Offer) → List Event → Desk → Prop}
    (h : Path step s₀ as es s) (hnew : new capacity groups ticker = .ok s₀) (base : P [] [] .empty)
    (step : ∀ {calls es d begun new d'}, d.Sound → P calls es d → Desk.Step d begun new d' →
      P (calls ++ begun) (es ++ new) d') :
    P (saves as) es s.desk := by
  induction h with
  | refl =>
    rw [desk_of_new hnew]
    exact base
  | tail hrun hstep ih =>
    rw [saves_append, saves_singleton]
    exact step (desk_sound_of_path hrun hnew) ih
      (desk_step (coherent_of_path hrun (coherent_of_new hnew)).absent_of_created hstep)

end

end OfferService.Saver
