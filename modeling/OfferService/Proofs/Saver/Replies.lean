import OfferService.Proofs.Saver.Accounts
import OfferService.Proofs.Saver.Gate

/-
  OfferService.Proofs.Saver.Replies

  What a caller is told who is refused or turned away, and in which state of the saver. A full
  buffer is told with the capacity. Nobody is told that the saver is closed before it was asked to
  close: the mailbox is closed only after that, and the event loop exits only after that.
-/
namespace OfferService.Saver

variable {capacity groups : Nat} {ticker : Ticker} {s₀ s t : State} {a : Action}
  {as bs : List Action} {es fs new : List Event} {c : Caller} {e : SaverError}

/-! ## Verdicts on their way -/

/-- A verdict of the event loop of a saver with this capacity. -/
def OfLoop (capacity : Nat) (v : Verdict) : Prop :=
  v = .ok () ∨ v = .error (.capacityReached capacity)

/-- What a saver keeps to that answers callers. -/
structure State.Candid (capacity : Nat) (s : State) : Prop where
  onTheWay : ∀ p ∈ s.verdicts, OfLoop capacity p.2
  locked : s.mailbox.isClosed = true → s.shutdown = true

theorem mem_reply_verdicts {v : Verdict} {p : Caller × Verdict}
    (h : p ∈ (reply s c v).verdicts) : p ∈ s.verdicts ∨ p.2 = v := by
  have hdesk : (reply s c v).verdicts = (s.desk.reply c v).verdicts :=
    congrArg Desk.verdicts (reply_desk s c v)
  rw [hdesk] at h
  rcases Desk.mem_reply_verdicts h with hold | rfl
  · exact Or.inl hold
  · exact Or.inr rfl

theorem flush_verdicts (s : State) (why : Reason) (after : Station) :
    (flush s why after).1.verdicts = s.verdicts :=
  congrArg Desk.verdicts (flush_desk s why after)

theorem flush_isClosed (s : State) (why : Reason) (after : Station) :
    (flush s why after).1.mailbox.isClosed = s.mailbox.isClosed :=
  congrArg Desk.isClosed (flush_desk s why after)

theorem reply_isClosed (s : State) (c : Caller) (v : Verdict) :
    (reply s c v).mailbox.isClosed = s.mailbox.isClosed := by
  rw [reply_eq]

/-- The event loop takes an offer, and tells the caller what it has done with it. -/
theorem accept_candid {at_ : Station} {o : Offer} (hs : s.Candid capacity)
    (hc : s.capacity = capacity) : (accept s at_ c o).1.Candid capacity := by
  have hdoor : (accept s at_ c o).1.shutdown = s.shutdown :=
    congrArg Door.shutdown (accept_door s at_ c o)
  -- There is room for more, the offer takes the last place, or the buffer is full.
  rcases Nat.lt_trichotomy (s.buffer.length + 1) s.capacity with room | last | full
  · rw [accept_of_room room] at hdoor ⊢
    refine ⟨?_, ?_⟩
    · intro p hp
      rcases mem_reply_verdicts hp with hold | hnew
      · exact hs.onTheWay p hold
      · exact Or.inl hnew
    · rw [hdoor, pushOffer, reply_isClosed]
      exact hs.locked
  · rw [accept_of_last last] at hdoor ⊢
    refine ⟨?_, ?_⟩
    · rw [flush_verdicts]
      intro p hp
      rcases mem_reply_verdicts hp with hold | hnew
      · exact hs.onTheWay p hold
      · exact Or.inl hnew
    · rw [hdoor, flush_isClosed, pushOffer, reply_isClosed]
      exact hs.locked
  · rw [accept_of_full (by omega)] at hdoor ⊢
    refine ⟨?_, ?_⟩
    · intro p hp
      rcases mem_reply_verdicts hp with hold | hnew
      · exact hs.onTheWay p hold
      · rw [← hc]
        exact Or.inr hnew
    · rw [hdoor, reply_isClosed]
      exact hs.locked

/-- A flush has nothing to do with callers. -/
theorem flush_candid (hs : s.Candid capacity) (why : Reason) (after : Station) :
    (flush s why after).1.Candid capacity := by
  have hdoor : (flush s why after).1.shutdown = s.shutdown :=
    congrArg Door.shutdown (flush_door s why after)
  refine ⟨?_, ?_⟩
  · rw [flush_verdicts]
    exact hs.onTheWay
  · rw [hdoor, flush_isClosed]
    exact hs.locked

theorem LoopMove.candid {m : Moved} (h : LoopMove s m) (hs : s.Candid capacity)
    (hc : s.capacity = capacity) : m.1.Candid capacity := by
  cases h with
  | close idle asked => exact ⟨hs.onTheWay, fun _ => asked⟩
  | @take at_ c o mailbox idle alive unasked next =>
    have hsame := (Mailbox.take?_eq_some next).2
    have htaken : ({ s with mailbox } : State).Candid capacity :=
      ⟨hs.onTheWay, fun hlocked => hs.locked (hsame.symm.trans hlocked)⟩
    exact accept_candid htaken hc
  | @tick n => exact flush_candid (s := { s with stream := ⟨n⟩ }) ⟨hs.onTheWay, hs.locked⟩ _ _
  | unfollow => exact ⟨hs.onTheWay, hs.locked⟩
  | finish => exact flush_candid hs _ _

theorem CallMove.candid {m : Moved} (h : CallMove s a m) (hs : s.Candid capacity) :
    m.1.Candid capacity := by
  cases h with
  | turnAway => exact hs
  | enter =>
    refine ⟨hs.onTheWay, ?_⟩
    show (Mailbox.enter _ _ _).isClosed = true → s.shutdown = true
    rw [Mailbox.isClosed_enter, Mailbox.isClosed_request]
    exact hs.locked
  | queue =>
    refine ⟨hs.onTheWay, ?_⟩
    rw [Mailbox.isClosed_request]
    exact hs.locked
  | withdraw =>
    refine ⟨hs.onTheWay, ?_⟩
    rw [Mailbox.isClosed_withdraw]
    exact hs.locked
  | letIn =>
    refine ⟨hs.onTheWay, ?_⟩
    show (Mailbox.enter _ _ _).isClosed = true → s.shutdown = true
    rw [Mailbox.isClosed_enter]
    exact hs.locked
  | collect => exact ⟨fun p hp => hs.onTheWay p (List.mem_filter.mp hp).1, hs.locked⟩
  | miss => exact ⟨hs.onTheWay, hs.locked⟩
  | forgo =>
    refine ⟨hs.onTheWay, ?_⟩
    rw [Mailbox.isClosed_withdraw]
    exact hs.locked
  | forsake => exact ⟨hs.onTheWay, hs.locked⟩
  | ignore => exact ⟨fun p hp => hs.onTheWay p (List.mem_filter.mp hp).1, hs.locked⟩

/-- A saver that was asked to close stays so, and its mailbox is not closed for another reason. -/
theorem DoorMove.candid {m : Moved} (h : DoorMove s m) (hs : s.Candid capacity) :
    m.1.Candid capacity := by
  cases h with
  | move step => exact ⟨hs.onTheWay, fun hlocked => step.shutdown (Or.inl (hs.locked hlocked))⟩
  | start step => exact ⟨hs.onTheWay, fun hlocked => step.shutdown (Or.inl (hs.locked hlocked))⟩
  | shut step quiet aside asked => exact ⟨hs.onTheWay, fun _ => asked⟩

theorem State.Candid.step (hs : s.Candid capacity) (hc : s.capacity = capacity)
    (h : step s a = some (t, new)) : t.Candid capacity := by
  cases move_cases h with
  | loop move => exact move.candid hs hc
  | answer move => cases move <;> exact ⟨hs.onTheWay, hs.locked⟩
  | call move => exact move.candid hs
  | door _ move => exact move.candid hs

/-! ## Whoever is not thanked -/

/-- Why a call returns that was not taken: the buffer is full, the saver was asked to close, or it
    was never initialized; and the error says which. -/
theorem error_of_returned (hs : s.Candid capacity) (hb : Behind s.door s.loop)
    (h : step s a = some (t, new)) (hc : .returned c (.error e) ∈ new) :
    e = .capacityReached capacity ∨ e = .closed ∧ s.shutdown = true ∨
      e = .notInitialized ∧ s.lifecycle = .created := by
  cases move_cases h with
  | loop move => cases move.isOfLoop hc
  | answer move => cases move.isOfLoop hc
  | call move =>
    cases move with
    | turnAway why =>
      cases List.mem_singleton.mp hc
      rcases why with ⟨asked, rfl⟩ | ⟨-, fresh, rfl⟩
      · exact Or.inr (Or.inl ⟨rfl, asked⟩)
      · exact Or.inr (Or.inr ⟨rfl, fresh⟩)
    | withdraw found ended =>
      cases List.mem_singleton.mp hc
      exact Or.inr (Or.inl ⟨rfl, ended.elim id hs.locked⟩)
    | collect found =>
      cases List.mem_singleton.mp hc
      rcases hs.onTheWay _ (mem_of_lookup found) with hok | hfull
      · cases hok
      · exact Or.inl (Except.error.inj hfull)
    | miss none waits exited =>
      -- The event loop has exited, which it does only when it was asked to.
      cases List.mem_singleton.mp hc
      exact Or.inr (Or.inl ⟨rfl, hb.ending (by rw [exited]; rfl)⟩)
    | _ => simp at hc
  | door _ move =>
    cases move with
    | move _ _ aside => exact absurd (aside _ hc) nofun
    | start => simp at hc
    | shut _ _ aside => exact absurd (aside _ hc) nofun

/-! ## Whole runs -/

section

variable (h : Path step s₀ as es s) (hnew : Saver.new capacity groups ticker = .ok s₀)
include h hnew

theorem candid_of_path : s.Candid capacity := by
  induction h with
  | refl =>
    obtain ⟨-, -, rfl⟩ := new_eq_ok hnew
    exact ⟨nofun, nofun⟩
  | tail hrun hstep ih => exact ih.step (settings_eq_of_path hrun hnew).1 hstep

/-- After a saver was initialized, a call that is not taken finds the buffer full, or returns after
    the saver was asked to close. -/
theorem error_of_returned_of_path (started : s.lifecycle ≠ .created) (h' : Path step s bs fs t)
    (hc : .returned c (.error e) ∈ fs) :
    e = .capacityReached capacity ∨ e = .closed ∧ t.shutdown = true := by
  have hall : t.lifecycle ≠ .created ∧ (.returned c (.error e) ∈ fs →
      e = .capacityReached capacity ∨ e = .closed ∧ t.shutdown = true) := by
    clear hc
    induction h' with
    | refl => exact ⟨started, nofun⟩
    | @tail bs fs t a u new hrun hstep ih =>
      obtain ⟨hstarted, hbefore⟩ := ih
      have hrun' := h.trans hrun
      have hdoor := door_step hstep
      refine ⟨fun fresh => hstarted (hdoor.created fresh), ?_⟩
      intro hmem
      have hnow : e = .capacityReached capacity ∨ e = .closed ∧ t.shutdown = true := by
        rcases List.mem_append.mp hmem with hold | hnow
        · exact hbefore hold
        · rcases error_of_returned (candid_of_path hrun' hnew) (behind_of_path hrun' hnew) hstep
              hnow with hfull | hclosed | ⟨-, fresh⟩
          · exact Or.inl hfull
          · exact Or.inr hclosed
          · exact absurd fresh hstarted
      exact hnow.imp_right fun hclosed => ⟨hclosed.1, hdoor.shutdown (Or.inl hclosed.2)⟩
  exact hall.2 hc

end

end OfferService.Saver
