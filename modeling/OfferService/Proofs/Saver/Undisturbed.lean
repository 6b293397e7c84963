import OfferService.Proofs.Saver.Core

/-
  OfferService.Proofs.Saver.Undisturbed

  Runs in which nothing but full buffers and the end sets off a flush, and every flush succeeds.
  Such is each run in which storage refuses no batch and no move of the event loop sees a tick; what
  is seen of a disturbance afterwards is its events, or the flush that is under way.
-/
namespace OfferService.Saver

/-! ## Disturbances -/

/-- Does storage refuse a batch, or does a flush end that was made at a tick? -/
def Event.isDisturbance : Event → Bool
  | .callEnded _ (.error _) | .flushEnded .periodic _ => true
  | _ => false

/-- Storage has refused no batch, and no flush was begun at a tick. That is so if no tick was seen
    (`undisturbed_of_path`), and also if the buffer was empty at every tick. -/
structure Undisturbed (es : List Event) (l : Loop) : Prop where
  smooth : ∀ e ∈ es, e.isDisturbance = false
  underWay : ∀ f after, l ≠ .flushing .periodic f after

/-- Nothing undoes a disturbance. -/
theorem Undisturbed.of_step {asked : Bool} {es new : List Event} {k k' : Core}
    (h : Undisturbed (es ++ new) k'.loop) (hstep : Core.Step asked k new k') :
    Undisturbed es k.loop := by
  refine ⟨fun e hmem => h.smooth e (List.mem_append_left _ hmem), ?_⟩
  intro f after busy
  -- A flush stays under way until it ends.
  cases hstep with
  | rest => exact h.underWay f after busy
  | wake absent => rw [busy] at absent; cases absent
  | drain idle => rw [busy] at idle; cases idle
  | refuse => exact h.underWay f after busy
  | push idle => rw [busy] at idle; cases idle
  | fill idle => rw [busy] at idle; cases idle
  | flush occasion idle => rw [busy] at idle; cases idle
  | leave idle => rw [busy] at idle; cases idle
  | proceed busy' =>
    rw [busy] at busy'
    cases busy'
    exact h.underWay _ _ rfl
  | @settle why g after r o busy' =>
    rw [busy] at busy'
    cases busy'
    exact absurd (h.smooth (.flushEnded .periodic o) (by simp)) nofun

theorem Undisturbed.of_path {s t : State} {as : List Action} {es fs : List Event}
    (h : Undisturbed (es ++ fs) t.loop) (hs : s.Coherent) (hrun : Path step s as fs t) :
    Undisturbed es s.loop := by
  induction hrun with
  | refl => rw [List.append_nil] at h; exact h
  | tail hrun hstep ih =>
    rw [← List.append_assoc] at h
    exact ih (h.of_step ((coherent_of_path hrun hs).core_step hstep))

/-! ## An event loop that sees no tick -/

/-- The next move of the event loop sees a tick. -/
structure State.SeesTick (s : State) : Prop where
  idle : s.loop = .idle .serving
  unasked : s.shutdown = false
  idleMail : s.mailbox.take? = none
  follows : s.followsTicks = true
  tick : ∃ n, s.ticker.next s.stream = some (.tick n)

/-- A flush that is under way now was begun for the reason that it has. -/
theorem why_of_flush {s : State} {why why' : Reason} {f : Batch.Flush Offer}
    {after after' : Station} (busy : (flush s why after).1.loop = .flushing why' f after') :
    why = why' := by
  unfold flush at busy
  split at busy
  · cases busy
  · cases hstart : Batch.Flush.start s.buffer s.groups with
    | waiting g => rw [hstart] at busy; cases busy; rfl
    | ended o => rw [hstart] at busy; cases busy

/-- A flush at a tick is begun by a move that sees one. -/
theorem LoopMove.seesTick {s : State} {m : Moved} {f : Batch.Flush Offer} {after : Station}
    (h : LoopMove s m) (busy : m.1.loop = .flushing .periodic f after) : s.SeesTick := by
  cases h with
  | close => cases busy
  | @take at_ c o mailbox idle =>
    -- An offer sets off a flush of a full buffer, or none.
    exfalso
    have hpush : (pushOffer { s with mailbox } c o).loop = s.loop :=
      congrArg Core.loop (pushOffer_core _ c o)
    rcases Nat.lt_trichotomy (s.buffer.length + 1) s.capacity with room | last | full
    · rw [accept_of_room (s := { s with mailbox }) room, hpush, idle] at busy
      cases busy
    · rw [accept_of_last (s := { s with mailbox }) last] at busy
      exact absurd (why_of_flush busy) nofun
    · have hreply : (reply { s with mailbox } c (.error (.capacityReached s.capacity))).loop =
          s.loop := congrArg Core.loop (reply_core _ c _)
      have hfull : s.capacity ≤ s.buffer.length := by omega
      rw [accept_of_full (s := { s with mailbox }) hfull, hreply, idle] at busy
      cases busy
  | tick idle unasked idleMail follows next => exact ⟨idle, unasked, idleMail, follows, _, next⟩
  | unfollow idle =>
    have hsame : s.loop = .flushing .periodic f after := busy
    rw [idle] at hsame
    cases hsame
  | finish => exact absurd (why_of_flush busy) nofun

/-- Whatever action leads into a flush at a tick, it is one that goes on, or the event loop sees the
    tick now. -/
theorem seesTick_of_step {s t : State} {a : Action} {es : List Event} {f : Batch.Flush Offer}
    {after : Station} (h : step s a = some (t, es)) (busy : t.loop = .flushing .periodic f after) :
    (∃ g, s.loop = .flushing .periodic g after) ∨ (a = .loop ∧ s.SeesTick) := by
  cases move_cases h with
  | loop move => exact Or.inr ⟨rfl, move.seesTick busy⟩
  | answer move =>
    cases move with
    | proceed busy' => cases busy; exact Or.inl ⟨_, busy'⟩
    | settle => cases busy
  | call move =>
    have hsame : t.loop = s.loop := congrArg Core.loop move.core_eq
    exact Or.inl ⟨f, hsame.symm.trans busy⟩
  | door _ move =>
    cases move with
    | move => exact Or.inl ⟨f, busy⟩
    | start => cases busy
    | shut => exact Or.inl ⟨f, busy⟩

/-- The flush that ends was under way. -/
theorem Core.Step.of_flushEnded {asked : Bool} {k k' : Core} {es : List Event} {why : Reason}
    {o : Batch.Outcome Offer} (h : Core.Step asked k es k') (hmem : .flushEnded why o ∈ es) :
    ∃ f after, k.loop = .flushing why f after := by
  cases h with
  | rest quiet => exact absurd hmem (quiet.not_mem rfl)
  | @settle why' f after r o' busy =>
    have hended : why = why' ∧ o = o' := by simpa using hmem
    rw [hended.1]
    exact ⟨f, after, busy⟩
  | _ => simp at hmem

/-- A step disturbs a run only if storage refuses a batch in it or the event loop sees a tick. -/
theorem Undisturbed.step {s t : State} {a : Action} {es new : List Event} (hs : s.Coherent)
    (h : Undisturbed es s.loop) (hstep : step s a = some (t, new))
    (taken : ∀ batch e, .callEnded batch (.error e) ∉ new) (unseen : a = .loop → ¬ s.SeesTick) :
    Undisturbed (es ++ new) t.loop := by
  refine ⟨fun e hmem => ?_, fun f after busy => ?_⟩
  · rcases List.mem_append.mp hmem with hold | hnow
    · exact h.smooth e hold
    · cases e with
      | callEnded batch r =>
        cases r with
        | ok => rfl
        | error e => exact absurd hnow (taken batch e)
      | flushEnded why o =>
        cases why with
        | periodic =>
          obtain ⟨f, after, busy⟩ := (hs.core_step hstep).of_flushEnded hnow
          exact absurd busy (h.underWay f after)
        | _ => rfl
      | _ => rfl
  · rcases seesTick_of_step hstep busy with ⟨g, busy'⟩ | ⟨rfl, seen⟩
    · exact h.underWay g after busy'
    · exact unseen rfl seen

/-- A run is undisturbed if storage refuses no batch in it and no move of the event loop sees a
    tick. -/
theorem undisturbed_of_path {capacity groups : Nat} {ticker : Ticker} {s₀ s : State}
    {as : List Action} {es : List Event} (h : Path step s₀ as es s)
    (hnew : new capacity groups ticker = .ok s₀)
    (taken : ∀ batch e, .callEnded batch (.error e) ∉ es)
    (unseen : ∀ before later old t, as = before ++ .loop :: later → Path step s₀ before old t →
      ¬ t.SeesTick) : Undisturbed es s.loop := by
  induction h with
  | refl =>
    obtain ⟨-, -, rfl⟩ := new_eq_ok hnew
    exact ⟨nofun, nofun⟩
  | @tail as es t a u new hrun hstep ih =>
    have hcalm : Undisturbed es t.loop := by
      refine ih (fun batch e hmem => taken batch e (List.mem_append_left _ hmem)) ?_
      rintro before later old v rfl
      exact unseen before (later ++ [a]) old v (by rw [List.append_assoc]; rfl)
    refine hcalm.step (coherent_of_path hrun (coherent_of_new hnew)) hstep
      (fun batch e hmem => taken batch e (List.mem_append_right _ hmem)) ?_
    rintro rfl
    exact unseen as [] es t rfl hrun

end OfferService.Saver
