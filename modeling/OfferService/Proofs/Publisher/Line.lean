import OfferService.Proofs.Lookup
import OfferService.Proofs.Publisher.Delivery

/-
  OfferService.Proofs.Publisher.Line

  The line for a place in the queue, when there is one sender in it at most. Nobody stands there for
  good: a few moves of the task and the sink, and whoever is in line may look again and finds a
  place, or finds that the publisher closes. Either way the call returns.
-/
namespace OfferService.Mailbox

variable {κ α : Type} {m m' : Mailbox κ α} {k : κ} {who : Option κ} {item : κ × α}

/-! ## The line of a mailbox -/

/-- Who is in line for a place, or has one and has not used it. If nobody is, there is a place, or
    an item whose place will be left. -/
inductive Line (m : Mailbox κ α) : Option κ → Prop
  /-- Nobody is let in any more. -/
  | shut {at_} (closed : m.isClosed = true) (waiting : m.waiting = []) (granted : m.granted = []) :
      Line m at_
  | vacant (waiting : m.waiting = []) (granted : m.granted = [])
      (places : 0 < m.room + m.items.length) : Line m none
  | waits {n} (waiting : m.waiting = [n]) (granted : m.granted = []) (full : m.items ≠ []) :
      Line m (some n)
  | placed {n} (waiting : m.waiting = []) (granted : m.granted = [n]) : Line m (some n)

namespace Line

/-- An empty mailbox with a place. -/
theorem empty {capacity : Nat} (some : 0 < capacity) :
    (Mailbox.empty capacity : Mailbox κ α).Line none :=
  .vacant rfl rfl some

theorem request (h : m.Line none) (k : κ) : (m.request k).Line (some k) := by
  unfold Mailbox.request
  by_cases closed : m.isClosed = true
  · rw [if_pos closed]
    cases h with
    | shut _ waiting granted => exact .shut closed waiting granted
    | vacant waiting granted => exact .shut closed waiting granted
  · rw [if_neg closed]
    cases h with
    | shut closed' => exact absurd closed' closed
    | vacant waiting granted places =>
      split
      · refine .placed waiting ?_
        rw [granted]
        rfl
      · refine .waits ?_ granted ?_
        · rw [waiting]
          rfl
        · -- There is no place left, so somebody has used one.
          have hsome : 0 < m.items.length := by omega
          exact List.ne_nil_of_length_pos hsome

theorem close : m.close.Line who := .shut rfl rfl rfl

/-- The place that is left goes to who is in line. -/
theorem take (h : m.Line who) (taken : m.take? = some (item, m')) : m'.Line who := by
  obtain ⟨hitems, hclosed⟩ := take?_eq_some taken
  unfold take? at taken
  split at taken
  · cases taken
  rename_i rest heq
  have hlength : m.items.length = rest.length + 1 := by
    rw [heq]
    rfl
  cases taken
  cases h with
  | shut closed waiting granted =>
    simp only [release, waiting] at *
    exact .shut closed rfl granted
  | vacant waiting granted =>
    simp only [release, waiting] at *
    exact .vacant rfl granted (by simp only []; omega)
  | waits waiting granted =>
    simp only [release, waiting] at *
    exact .placed rfl (by simp only [granted, List.nil_append])
  | placed waiting granted =>
    simp only [release, waiting] at *
    exact .placed rfl granted

variable [DecidableEq κ]

theorem enter (h : m.Line (some k)) (admitted : m.admits k = true) (a : α) :
    (m.enter k a).Line none := by
  have hopen := isClosed_of_admits admitted
  have hgranted : k ∈ m.granted := by
    unfold admits at admitted
    simpa [hopen] using admitted
  unfold Mailbox.enter
  rw [if_pos admitted]
  cases h with
  | shut closed =>
    rw [hopen] at closed
    cases closed
  | waits _ granted =>
    rw [granted] at hgranted
    cases hgranted
  | placed waiting granted =>
    refine .vacant waiting ?_ ?_
    · simp [granted]
    · simp only [List.length_append, List.length_singleton]
      omega

theorem withdraw (h : m.Line (some k)) : (m.withdraw k).Line none := by
  unfold Mailbox.withdraw
  cases h with
  | shut closed waiting granted =>
    simp only [granted, waiting, List.contains_nil, Bool.false_eq_true, if_false, List.erase_nil]
    exact .shut closed rfl rfl
  | waits waiting granted full =>
    have hsome := List.length_pos_iff.mpr full
    simp only [granted, waiting, List.contains_nil, Bool.false_eq_true, if_false]
    exact .vacant (by simp) rfl (by simp only []; omega)
  | placed waiting granted =>
    -- The place is given back.
    simp only [granted, List.contains_cons, beq_self_eq_true, Bool.true_or, if_true, release,
      waiting]
    exact .vacant rfl (by simp) (by simp only []; omega)

end Line

end OfferService.Mailbox

namespace OfferService.Publisher

variable {s : State} {a : Action} {m : Moved} {c : Caller} {e : Envelope} {who : Option Caller}

/-! ## The line of a publisher -/

/-- The caller in line, and nobody else, waits for a place in the queue. -/
structure InLine (s : State) (who : Option Caller) : Prop where
  pending : s.pending.map (·.1) = who.toList
  queue : s.queue.Line who
  ending : Ending s

/-- Nobody is in the line of a new publisher. -/
theorem inLine_new (topic : String) (capacity : Nat) : InLine (new topic capacity) none :=
  ⟨rfl, .empty (by omega), nofun, nofun⟩

/-- What comes of a move for who is in line: its call returns, and nobody is in line any more, or
    all is as before. -/
inductive Turn (m : Moved) : Option Caller → Prop
  | returns {k b v} (events : m.2 = b ++ [.returned k v]) (silent : ∀ k v, .returned k v ∉ b)
      (line : InLine m.1 none) : Turn m (some k)
  | still {at_} (silent : ∀ k v, .returned k v ∉ m.2) (line : InLine m.1 at_) : Turn m at_

/-- Whoever is in line is the only one. -/
theorem InLine.pending_eq (h : InLine s who) (found : s.pending.lookup c = some e) :
    who = some c ∧ s.pending = [(c, e)] := by
  have hmem := mem_of_lookup found
  cases who with
  | none =>
    rw [List.map_eq_nil_iff.mp h.pending] at hmem
    cases hmem
  | some k =>
    obtain ⟨p, hpending, hp⟩ := List.map_eq_singleton_iff.mp h.pending
    rw [hpending] at hmem
    cases List.mem_singleton.mp hmem
    exact ⟨congrArg some hp.symm, hpending⟩

/-- Who sends a message is in line, and may be over with it at once. -/
theorem InLine.send (h : InLine s none) (c : Caller) (e : Envelope) :
    Turn (Publisher.send s c e) (some c) := by
  have hpending := List.map_eq_nil_iff.mp h.pending
  have hcases := send_cases s c e
  have ending : Ending (Publisher.send s c e).1 := by
    have hstep : Publisher.step s (.send c e) = some (Publisher.send s c e) := rfl
    exact h.ending.step hstep
  generalize Publisher.send s c e = m at hcases ending ⊢
  cases hcases with
  | turnAway => exact .returns (List.nil_append _).symm (by simp) h
  | enter admitted =>
    have hline := (h.queue.request c).enter admitted e
    exact .returns (b := [.queued c e]) rfl (by simp) ⟨h.pending, hline, ending⟩
  | wait =>
    refine .still (by simp) ⟨?_, h.queue.request c, ending⟩
    show (s.pending ++ [(c, e)]).map (·.1) = [c]
    rw [hpending]
    rfl

/-- What a move of another party, or a sender who looks again, makes of the line. -/
theorem InLine.step (h : InLine s who) (hstep : Publisher.step s a = some m)
    (own : ∀ c e, a ≠ .send c e) : Turn m who := by
  have ending := h.ending.step hstep
  have hleft {c : Caller} {e : Envelope} (hpending : s.pending = [(c, e)]) :
      (s.pending.filter fun p : Caller × Envelope => p.1 ≠ c).map (·.1) = [] := by
    rw [hpending]
    simp
  cases move_cases hstep with
  | turnAway => exact absurd rfl (own _ _)
  | enter => exact absurd rfl (own _ _)
  | wait => exact absurd rfl (own _ _)
  | withdraw found =>
    obtain ⟨rfl, hpending⟩ := h.pending_eq found
    exact .returns (List.nil_append _).symm (by simp) ⟨hleft hpending, h.queue.withdraw, ending⟩
  | @letIn k e found admitted =>
    obtain ⟨rfl, hpending⟩ := h.pending_eq found
    have hline := h.queue.enter admitted e
    exact .returns (b := [.queued k e]) rfl (by simp) ⟨hleft hpending, hline, ending⟩
  | shut => exact .still (by simp) ⟨h.pending, .close, ending⟩
  | take _ _ next => exact .still (by simp) ⟨h.pending, h.queue.take next, ending⟩
  | _ => exact .still (by simp) ⟨h.pending, h.queue, ending⟩

/-! ## How long it takes -/

/-- How many moves of the task and the sink it takes until a message is taken from the queue. -/
def Work.delay : Work → Nat
  | .idle _ => 1
  | .attempting .. => 2
  | .pausing .. => 3

/-- May whoever is in line look again? -/
def State.isReady (s : State) : Bool :=
  s.shutdown || s.queue.isClosed || s.queue.waiting.isEmpty

/-- How many moves it takes until whoever is in line may look again. -/
def State.delay (s : State) : Nat := if s.isReady then 0 else s.work.delay

/-- Who may look again finds a place, or finds that the publisher closes. -/
theorem InLine.resume (h : InLine s (some c)) (ready : s.isReady = true) :
    ∃ m, Publisher.resume s c = some m ∧ ∃ v, .returned c v ∈ m.2 := by
  obtain ⟨⟨k, e⟩, hpending, rfl⟩ := List.map_eq_singleton_iff.mp h.pending
  have found : s.pending.lookup k = some e := by
    rw [hpending]
    exact List.lookup_cons_self
  unfold Publisher.resume
  rw [found]
  simp only []
  by_cases ended : s.shutdown = true ∨ s.queue.isClosed = true
  · rw [if_pos ended]
    exact ⟨_, rfl, _, List.mem_cons_self⟩
  · have hends := not_or.mp ended
    have hwaiting : s.queue.waiting = [] := by simpa [State.isReady, hends] using ready
    have admitted : s.queue.admits k = true := by
      cases h.queue with
      | shut closed => exact absurd closed hends.2
      | waits waiting =>
        rw [waiting] at hwaiting
        cases hwaiting
      | placed _ granted => simp [Mailbox.admits, granted, hends.2]
    rw [if_neg ended, if_pos admitted]
    exact ⟨_, rfl, _, List.mem_cons_of_mem _ List.mem_cons_self⟩

/-- As long as who is in line may not look again, the task or the sink can bring that closer. -/
theorem InLine.hurry (h : InLine s (some c)) (later : s.isReady = false) :
    ∃ a m, (a = .task ∨ a = .answer (.ok ())) ∧ Publisher.step s a = some m ∧
      m.1.delay < s.delay := by
  have hdelay {t : State} (later : t.isReady = false) : t.delay = t.work.delay := by
    rw [State.delay, later]
    rfl
  have hends : s.shutdown = false ∧ s.queue.isClosed = false ∧ s.queue.waiting ≠ [] := by
    simpa [State.isReady, and_assoc] using later
  have hserving : s.work.station = .serving := by
    by_contra hne
    rw [h.ending.closed hne] at hends
    cases hends.2.1
  rw [hdelay later]
  cases hwork : s.work with
  | idle at_ =>
    -- The task takes a message, and its place goes to who is in line.
    obtain rfl : at_ = .serving := by
      rw [hwork] at hserving
      exact hserving
    cases h.queue with
    | shut closed =>
      rw [closed] at hends
      cases hends.2.1
    | placed waiting => exact absurd waiting hends.2.2
    | waits waiting granted full =>
      obtain ⟨⟨k, e⟩, rest, hitems⟩ := List.exists_cons_of_ne_nil full
      let q : Mailbox Caller Envelope :=
        { s.queue with items := rest, waiting := [], granted := [c] }
      have htake : s.queue.take? = some ((k, e), q) := by
        simp only [Mailbox.take?, hitems, Mailbox.release, waiting, granted, List.nil_append, q]
      have hready : (attempt { s with queue := q } e 0 .serving).1.isReady = true := by
        simp [attempt, State.isReady, q]
      refine ⟨.task, attempt { s with queue := q } e 0 .serving, Or.inl rfl, ?_, ?_⟩
      · simp only [Publisher.step, taskMove, hwork, hends.1, htake, Bool.false_eq_true, if_false]
      · rw [State.delay, if_pos hready]
        exact Nat.one_pos
  | attempting e failures after =>
    refine ⟨.answer (.ok ()), ({ s with work := .idle after }, [.attemptEnded e (.ok ())]),
      Or.inr rfl, ?_, ?_⟩
    · simp only [Publisher.step, answer, hwork]
    · rw [hdelay (t := { s with work := .idle after }) later]
      exact Nat.one_lt_two
  | pausing e failures after =>
    refine ⟨.task, attempt s e failures after, Or.inl rfl, ?_, ?_⟩
    · simp only [Publisher.step, taskMove, hwork]
    · rw [hdelay (t := (attempt s e failures after).1) later]
      exact Nat.lt_succ_self 2

end OfferService.Publisher
