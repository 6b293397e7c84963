import Mathlib.Data.List.Forall2
import OfferService.Proofs.Lookup
import OfferService.Proofs.Publisher.Moves

/-
  OfferService.Proofs.Publisher.Delivery

  How messages get from the queue to the sink. The attempts of a run are blocks, one for each
  message taken from the queue, in the order of the queue, and a last one that is not complete while
  the task has a message in hand. `Record` says so and every move keeps it; draining is no other
  case than serving, since the task takes messages the same way.

  The mailbox is closed before the task drains it and empty when the task exits. So whatever the
  queue has let in has its block by then, and nothing is attempted after that.
-/
namespace OfferService.Publisher

/-! ## Blocks of attempts -/

/-- These attempts at a message have failed. -/
def Failing (e : Envelope) (b : List Attempt) : Prop :=
  ∀ a ∈ b, a.envelope = e ∧ ∃ cause, a.verdict = .error cause

/-- All the attempts at a message: one at least, and at most one more than there are pauses. All but
    the last have failed, and if there could have been more, the last one succeeded. -/
structure Block (e : Envelope) (b : List Attempt) : Prop where
  nonempty : b ≠ []
  length_le : b.length ≤ pauses.length + 1
  same : ∀ a ∈ b, a.envelope = e
  failed : Failing e b.dropLast
  delivered : b.length < pauses.length + 1 → b.getLast? = some ⟨e, .ok ()⟩

theorem Failing.nil (e : Envelope) : Failing e [] := by
  intro a ha
  cases ha

theorem Failing.concat {e : Envelope} {b : List Attempt} (h : Failing e b) (cause : PublishError) :
    Failing e (b ++ [⟨e, .error cause⟩]) := by
  intro a ha
  rcases List.mem_append.mp ha with hold | hnew
  · exact h a hold
  · rw [List.mem_singleton.mp hnew]
    exact ⟨rfl, cause, rfl⟩

/-- An attempt after failed ones completes the block if it succeeds, or if it is the last one. -/
theorem Failing.complete {e : Envelope} {b : List Attempt} {r : Verdict} (h : Failing e b)
    (few : b.length ≤ pauses.length) (ended : r = .ok () ∨ pauses.length ≤ b.length) :
    Block e (b ++ [⟨e, r⟩]) := by
  have hlength : (b ++ [(⟨e, r⟩ : Attempt)]).length = b.length + 1 := List.length_append
  refine ⟨by simp, by omega, ?_, ?_, ?_⟩
  · intro a ha
    rcases List.mem_append.mp ha with hold | hnew
    · exact (h a hold).1
    · rw [List.mem_singleton.mp hnew]
  · rw [List.dropLast_concat]
    exact h
  · -- A block that could have been longer ends with a success.
    intro short
    rw [List.getLast?_concat]
    rcases ended with rfl | all
    · rfl
    · omega

/-! ## The message in hand -/

/-- The message that the sink has. -/
def Work.underway : Work → List Envelope
  | .attempting e _ _ => [e]
  | _ => []

/-- Where the task stands, or will when it is done with the message in hand. -/
def Work.station : Work → Station
  | .idle at_ => at_
  | .attempting _ _ after => after
  | .pausing _ _ after => after

/-- What the task has in hand, and the attempts at it that have failed so far. -/
inductive InHand : Work → List (Caller × Envelope) → List Attempt → Prop
  | nothing {at_} : InHand (.idle at_) [] []
  | attempting {c e after b} (failing : Failing e b) (few : b.length ≤ pauses.length) :
      InHand (.attempting e b.length after) [(c, e)] b
  | pausing {c e after b} (failing : Failing e b) (few : b.length ≤ pauses.length) :
      InHand (.pausing e b.length after) [(c, e)] b

theorem InHand.of_idle {at_ : Station} {hand : List (Caller × Envelope)} {part : List Attempt}
    (h : InHand (.idle at_) hand part) : hand = [] ∧ part = [] := by
  cases h
  exact ⟨rfl, rfl⟩

theorem InHand.of_attempting {e : Envelope} {failures : Nat} {after : Station}
    {hand : List (Caller × Envelope)} {part : List Attempt}
    (h : InHand (.attempting e failures after) hand part) :
    ∃ c, hand = [(c, e)] ∧ failures = part.length ∧ Failing e part ∧
      part.length ≤ pauses.length := by
  cases h with
  | attempting failing few => exact ⟨_, rfl, rfl, failing, few⟩

theorem InHand.of_pausing {e : Envelope} {failures : Nat} {after : Station}
    {hand : List (Caller × Envelope)} {part : List Attempt}
    (h : InHand (.pausing e failures after) hand part) :
    ∃ c, hand = [(c, e)] ∧ failures = part.length ∧ Failing e part ∧
      part.length ≤ pauses.length := by
  cases h with
  | pausing failing few => exact ⟨_, rfl, rfl, failing, few⟩

/-! ## The record of a run -/

/-- What the events of a run say about messages: those that are `done` have their `blocks`, the one
    in `hand` a `part` of one, and all others are still in the queue. -/
structure Record (es : List Event) (s : State) (done hand : List (Caller × Envelope))
    (blocks : List (List Attempt)) (part : List Attempt) : Prop where
  queued_eq : queued es = done ++ hand ++ s.queue.items
  attempts_eq : attempts es = blocks.flatten ++ part
  starts_eq : starts es = (attempts es).map (·.envelope) ++ s.work.underway
  complete : List.Forall₂ (fun p b => Block p.2 b) done blocks
  inHand : InHand s.work hand part
  lost : ∀ e ∈ losses es, ∃ b ∈ blocks, Block e b ∧ Failing e b

namespace Record

variable {es new : List Event} {s t : State} {done hand : List (Caller × Envelope)}
  {blocks : List (List Attempt)} {part : List Attempt}

/-- Nothing is put into the queue or taken out of it, and nothing is attempted. -/
theorem rest (h : Record es s done hand blocks part) (items : t.queue.items = s.queue.items)
    (inHand : InHand t.work hand part) (underway : t.work.underway = s.work.underway)
    (noQueued : queued new = []) (noStarts : starts new = []) (noAttempts : attempts new = [])
    (noLosses : losses new = []) : Record (es ++ new) t done hand blocks part := by
  refine ⟨?_, ?_, ?_, h.complete, inHand, ?_⟩
  · rw [queued_append, noQueued, List.append_nil, items]
    exact h.queued_eq
  · rw [attempts_append, noAttempts, List.append_nil]
    exact h.attempts_eq
  · rw [starts_append, attempts_append, noStarts, noAttempts, List.append_nil, List.append_nil,
      underway]
    exact h.starts_eq
  · rw [losses_append, noLosses, List.append_nil]
    exact h.lost

/-- A message is put into the queue. -/
theorem enter {c : Caller} {e : Envelope} (h : Record es s done hand blocks part)
    (items : t.queue.items = s.queue.items ++ [(c, e)]) (work : t.work = s.work) :
    Record (es ++ [.queued c e, .returned c (.ok ())]) t done hand blocks part := by
  have hattempts : attempts [.queued c e, .returned c (.ok ())] = [] := rfl
  have hstarts : starts [.queued c e, .returned c (.ok ())] = [] := rfl
  have hlosses : losses [.queued c e, .returned c (.ok ())] = [] := rfl
  refine ⟨?_, ?_, ?_, h.complete, by rw [work]; exact h.inHand, ?_⟩
  · rw [queued_append, h.queued_eq, items, List.append_assoc (done ++ hand)]
    rfl
  · rw [attempts_append, hattempts, List.append_nil]
    exact h.attempts_eq
  · rw [starts_append, attempts_append, hstarts, hattempts, List.append_nil, List.append_nil, work]
    exact h.starts_eq
  · rw [losses_append, hlosses, List.append_nil]
    exact h.lost

/-- The task gives a message to the sink: the first of the queue, or the one in hand. -/
theorem start {e : Envelope} {hand' : List (Caller × Envelope)}
    (h : Record es s done hand blocks part) (idle : s.work.underway = [])
    (items : hand ++ s.queue.items = hand' ++ t.queue.items) (inHand : InHand t.work hand' part)
    (underway : t.work.underway = [e]) :
    Record (es ++ [.attemptStarted e]) t done hand' blocks part := by
  have hqueued : queued [.attemptStarted e] = [] := rfl
  have hattempts : attempts [.attemptStarted e] = [] := rfl
  have hlosses : losses [.attemptStarted e] = [] := rfl
  refine ⟨?_, ?_, ?_, h.complete, inHand, ?_⟩
  · rw [queued_append, hqueued, List.append_nil, h.queued_eq, List.append_assoc, items,
      ← List.append_assoc]
  · rw [attempts_append, hattempts, List.append_nil]
    exact h.attempts_eq
  · rw [starts_append, attempts_append, hattempts, List.append_nil, underway, h.starts_eq, idle,
      List.append_nil]
    rfl
  · rw [losses_append, hlosses, List.append_nil]
    exact h.lost

/-- The sink answers an attempt, and the message stays in hand. -/
theorem again {e : Envelope} {cause : PublishError} (h : Record es s done hand blocks part)
    (busy : s.work.underway = [e]) (items : t.queue.items = s.queue.items)
    (inHand : InHand t.work hand (part ++ [⟨e, .error cause⟩])) (idle : t.work.underway = []) :
    Record (es ++ [.attemptEnded e (.error cause)]) t done hand blocks
      (part ++ [⟨e, .error cause⟩]) := by
  have hqueued : queued [.attemptEnded e (.error cause)] = [] := rfl
  have hstarts : starts [.attemptEnded e (.error cause)] = [] := rfl
  have hlosses : losses [.attemptEnded e (.error cause)] = [] := rfl
  refine ⟨?_, ?_, ?_, h.complete, inHand, ?_⟩
  · rw [queued_append, hqueued, List.append_nil, items]
    exact h.queued_eq
  · rw [attempts_append, h.attempts_eq, List.append_assoc]
    rfl
  · rw [starts_append, hstarts, List.append_nil, h.starts_eq, busy, idle, List.append_nil,
      attempts_append, List.map_append]
    rfl
  · rw [losses_append, hlosses, List.append_nil]
    exact h.lost

/-- The sink answers the last attempt at the message in hand, which has its block then. -/
theorem finish {c : Caller} {e : Envelope} {r : Verdict} {loss : List Event} {after : Station}
    (h : Record es s done [(c, e)] blocks part) (busy : s.work.underway = [e])
    (items : t.queue.items = s.queue.items) (idle : t.work = .idle after)
    (block : Block e (part ++ [⟨e, r⟩]))
    (lost : loss = [] ∨
      Failing e (part ++ [⟨e, r⟩]) ∧ ∃ cause, loss = [.gaveUp e cause]) :
    Record (es ++ .attemptEnded e r :: loss) t (done ++ [(c, e)]) []
      (blocks ++ [part ++ [⟨e, r⟩]]) [] := by
  -- That the message is dropped is one event more, of which only the losses tell.
  have hqueued : queued (.attemptEnded e r :: loss) = [] := by
    rcases lost with rfl | ⟨-, cause, rfl⟩ <;> rfl
  have hattempts : attempts (.attemptEnded e r :: loss) = [⟨e, r⟩] := by
    rcases lost with rfl | ⟨-, cause, rfl⟩ <;> rfl
  have hstarts : starts (.attemptEnded e r :: loss) = [] := by
    rcases lost with rfl | ⟨-, cause, rfl⟩ <;> rfl
  refine ⟨?_, ?_, ?_, ?_, by rw [idle]; exact .nothing, ?_⟩
  · rw [queued_append, hqueued, List.append_nil, h.queued_eq, items, List.append_nil]
  · rw [attempts_append, hattempts, h.attempts_eq, List.flatten_append, List.flatten_singleton,
      List.append_nil, List.append_assoc]
  · rw [starts_append, hstarts, List.append_nil, h.starts_eq, busy, idle, attempts_append,
      hattempts, List.map_append]
    exact (List.append_nil _).symm
  · exact List.rel_append h.complete (.cons block .nil)
  · -- A message that is dropped now has a block of failed attempts.
    intro k hk
    rw [losses_append] at hk
    rcases List.mem_append.mp hk with hold | hnew
    · obtain ⟨b, hb, hblock⟩ := h.lost k hold
      exact ⟨b, List.mem_append_left _ hb, hblock⟩
    · rcases lost with rfl | ⟨failing, cause, rfl⟩
      · cases hnew
      · have hke : k = e := List.mem_singleton.mp hnew
        rw [hke]
        exact ⟨_, List.mem_append_right _ List.mem_cons_self, block, failing⟩

end Record

/-- Every move keeps the record. -/
theorem Record.step {es new : List Event} {s t : State} {a : Action}
    {done hand : List (Caller × Envelope)} {blocks : List (List Attempt)} {part : List Attempt}
    (h : Record es s done hand blocks part) (hstep : Publisher.step s a = some (t, new)) :
    ∃ done' hand' blocks' part', Record (es ++ new) t done' hand' blocks' part' := by
  have hin := h.inHand
  cases move_cases hstep with
  | turnAway => exact ⟨done, hand, blocks, part, h.rest rfl hin rfl rfl rfl rfl rfl⟩
  | @enter c e admitted =>
    have items := Mailbox.items_enter admitted e
    rw [Mailbox.items_request] at items
    exact ⟨done, hand, blocks, part, h.enter items rfl⟩
  | @wait c e =>
    have items := Mailbox.items_request s.queue c
    exact ⟨done, hand, blocks, part, h.rest items hin rfl rfl rfl rfl rfl⟩
  | @withdraw c e =>
    have items := Mailbox.items_withdraw s.queue c
    exact ⟨done, hand, blocks, part, h.rest items hin rfl rfl rfl rfl rfl⟩
  | @letIn c e found admitted =>
    have items := Mailbox.items_enter admitted e
    exact ⟨done, hand, blocks, part, h.enter items rfl⟩
  | closeFirst => exact ⟨done, hand, blocks, part, h.rest rfl hin rfl rfl rfl rfl rfl⟩
  | closeLater => exact ⟨done, hand, blocks, part, h.rest rfl hin rfl rfl rfl rfl rfl⟩
  | closeEnd => exact ⟨done, hand, blocks, part, h.rest rfl hin rfl rfl rfl rfl rfl⟩
  | drop => exact ⟨done, hand, blocks, part, h.rest rfl hin rfl rfl rfl rfl rfl⟩
  | shut idle =>
    -- Between two messages the task has none in hand.
    rw [idle] at hin
    obtain ⟨rfl, rfl⟩ := hin.of_idle
    exact ⟨done, [], blocks, [], h.rest rfl .nothing (by rw [idle]; rfl) rfl rfl rfl rfl⟩
  | exit idle =>
    rw [idle] at hin
    obtain ⟨rfl, rfl⟩ := hin.of_idle
    exact ⟨done, [], blocks, [], h.rest rfl .nothing (by rw [idle]; rfl) rfl rfl rfl rfl⟩
  | @take at_ c e queue n idle alive next =>
    -- The first message of the queue is the one in hand now, with no attempt behind it.
    rw [idle] at hin
    obtain ⟨rfl, rfl⟩ := hin.of_idle
    have items := (Mailbox.take?_eq_some next).1
    exact ⟨done, [(c, e)], blocks, [],
      h.start (by rw [idle]; rfl) items (.attempting (Failing.nil e) (Nat.zero_le _)) rfl⟩
  | @retry e failures after pausing =>
    rw [pausing] at hin
    obtain ⟨c, rfl, rfl, failing, few⟩ := hin.of_pausing
    exact ⟨done, [(c, e)], blocks, part,
      h.start (by rw [pausing]; rfl) rfl (.attempting failing few) rfl⟩
  | @deliver e failures after busy =>
    rw [busy] at hin
    obtain ⟨c, rfl, rfl, failing, few⟩ := hin.of_attempting
    exact ⟨done ++ [(c, e)], [], blocks ++ [part ++ [⟨e, .ok ()⟩]], [],
      h.finish (t := { s with work := .idle after }) (by rw [busy]; rfl) rfl rfl
        (failing.complete few (Or.inl rfl)) (Or.inl rfl)⟩
  | @fail e failures after cause busy more =>
    -- The failures are counted by the length of the part.
    rw [busy] at hin
    obtain ⟨c, rfl, rfl, failing, few⟩ := hin.of_attempting
    have hlength : (part ++ [(⟨e, .error cause⟩ : Attempt)]).length = part.length + 1 :=
      List.length_append
    have hpart : InHand (.pausing e (part.length + 1) after) [(c, e)]
        (part ++ [⟨e, .error cause⟩]) := by
      rw [← hlength]
      exact .pausing (failing.concat cause) (by omega)
    exact ⟨done, [(c, e)], blocks, part ++ [⟨e, .error cause⟩],
      h.again (t := { s with work := .pausing e (part.length + 1) after }) (by rw [busy]; rfl)
        rfl hpart rfl⟩
  | @giveUp e failures after cause busy last =>
    -- No pause is left, so the block is complete though its last attempt has failed.
    rw [busy] at hin
    obtain ⟨c, rfl, rfl, failing, few⟩ := hin.of_attempting
    exact ⟨done ++ [(c, e)], [], blocks ++ [part ++ [⟨e, .error cause⟩]], [],
      h.finish (t := { s with work := .idle after }) (by rw [busy]; rfl) rfl rfl
        (failing.complete few (Or.inr last)) (Or.inr ⟨failing.concat cause, cause, rfl⟩)⟩

/-! ## The end -/

/-- The queue is closed while the task drains it, and empty once the task has exited; no message is
    in hand then. -/
structure Ending (s : State) : Prop where
  closed : s.work.station ≠ .serving → s.queue.isClosed = true
  empty : s.work.station = .exited → s.work = .idle .exited ∧ s.queue.items = []

namespace Ending

variable {s t : State}

/-- The task goes on where it was, and nobody gets into the queue. -/
theorem rest (h : Ending s) (work : t.work = s.work) (closed : t.queue.isClosed = s.queue.isClosed)
    (items : t.queue.items = s.queue.items) : Ending t := by
  refine ⟨?_, ?_⟩
  · intro hne
    rw [work] at hne
    rw [closed]
    exact h.closed hne
  · intro exited
    rw [work] at exited
    rw [work, items]
    exact h.empty exited

/-- The task goes on with a message, or is done with it. -/
theorem proceed (h : Ending s) (station : t.work.station = s.work.station)
    (busy : s.work.station ≠ .exited) (closed : t.queue.isClosed = s.queue.isClosed) :
    Ending t := by
  refine ⟨?_, ?_⟩
  · intro hne
    rw [station] at hne
    rw [closed]
    exact h.closed hne
  · intro exited
    rw [station] at exited
    exact absurd exited busy

/-- Whoever gets into the queue finds it open, so the task was serving. -/
theorem enter {q : Mailbox Caller Envelope} {c : Caller} (h : Ending s)
    (same : q.isClosed = s.queue.isClosed) (admitted : q.admits c = true)
    (work : t.work = s.work) : Ending t := by
  have hopen : s.queue.isClosed = false := by
    rw [← same]
    exact Mailbox.isClosed_of_admits admitted
  have hserving : s.work.station = .serving := by
    by_contra hne
    rw [h.closed hne] at hopen
    cases hopen
  rw [← work] at hserving
  refine ⟨fun hne => absurd hserving hne, ?_⟩
  intro exited
  rw [hserving] at exited
  cases exited

/-- A message in hand is one that the task took before it exited. -/
theorem ne_exited (h : Ending s) (busy : s.work ≠ .idle .exited) : s.work.station ≠ .exited :=
  fun exited => busy (h.empty exited).1

theorem step {a : Action} {new : List Event} (h : Ending s)
    (hstep : Publisher.step s a = some (t, new)) : Ending t := by
  cases move_cases hstep with
  | turnAway => exact h
  | enter admitted => exact h.enter (Mailbox.isClosed_request _ _) admitted rfl
  | wait => exact h.rest rfl (Mailbox.isClosed_request _ _) (Mailbox.items_request _ _)
  | withdraw => exact h.rest rfl (Mailbox.isClosed_withdraw _ _) (Mailbox.items_withdraw _ _)
  | letIn found admitted => exact h.enter rfl admitted rfl
  | closeFirst => exact h.rest rfl rfl rfl
  | closeLater => exact h.rest rfl rfl rfl
  | closeEnd => exact h.rest rfl rfl rfl
  | drop => exact h.rest rfl rfl rfl
  | shut => exact ⟨fun _ => rfl, nofun⟩
  | take idle alive next =>
    have hstation : s.work.station ≠ .exited := by
      rw [idle]
      exact alive
    exact h.proceed (by rw [idle]; rfl) hstation (Mailbox.take?_eq_some next).2
  | exit idle empty =>
    -- The task exits when it finds the queue empty, and the queue was closed before.
    have hclosed := h.closed (by rw [idle]; nofun)
    exact ⟨fun _ => hclosed, fun _ => ⟨rfl, Mailbox.take?_eq_none empty⟩⟩
  | retry pausing =>
    exact h.proceed (by rw [pausing]; rfl) (h.ne_exited (by rw [pausing]; nofun)) rfl
  | deliver busy => exact h.proceed (by rw [busy]; rfl) (h.ne_exited (by rw [busy]; nofun)) rfl
  | fail busy => exact h.proceed (by rw [busy]; rfl) (h.ne_exited (by rw [busy]; nofun)) rfl
  | giveUp busy => exact h.proceed (by rw [busy]; rfl) (h.ne_exited (by rw [busy]; nofun)) rfl

end Ending

end OfferService.Publisher
