import OfferService.Proofs.Path
import OfferService.Proofs.Publisher.Delivery
import OfferService.Proofs.Publisher.Senders

/-
  OfferService.Proofs.Publisher.Blocks

  What becomes of the messages handed to a publisher, in every run from its start on. A message
  whose caller is thanked has entered the queue; the attempts of the sink are the blocks of these
  messages, in the order of the queue, and whoever waits for the end finds all blocks complete.

  The record of a run, the queue at its end, the place of each message and the callers who close
  are kept by every move; the run laws below start them and put them together.
-/
namespace OfferService.Publisher

variable {topic : String} {capacity : Nat} {s : State} {as : List Action} {es : List Event}

/-- What the events of a run say about those who send, those who close, and the sink. -/
structure Faithful (as : List Action) (es : List Event) (s : State) : Prop where
  /-- Calls return well in the order in which their messages enter the queue. -/
  thanked_eq : thanked es = (queued es).map (·.1)
  /-- A message in the queue is one that its caller sent. -/
  sent : ∀ p ∈ queued es, p ∈ sends as
  /-- Whoever was told that the publisher is closed has no message in the queue. -/
  refused : ∀ c, .returned c (.error .closed) ∈ es → c ∉ (queued es).map (·.1)
  /-- The attempts are blocks, in the order of the queue. -/
  recorded : ∃ done hand blocks part, Record es s done hand blocks part
  /-- When the task has exited, each message has its block. -/
  complete : s.work = .idle .exited → ∃ blocks, attempts es = blocks.flatten ∧
    starts es = (attempts es).map (·.envelope) ∧
    List.Forall₂ (fun p b => Block p.2 b) (queued es) blocks
  /-- The first caller who closes returns when the task has exited. -/
  awaited : ∀ c later, closings es = c :: later → c ∉ later → .closeReturned c ∈ es →
    s.work = .idle .exited

/-! ## Run laws -/

theorem record_of_path (h : Path step (new topic capacity) as es s) :
    ∃ done hand blocks part, Record es s done hand blocks part := by
  have hstart : Record [] (new topic capacity) [] [] [] [] :=
    ⟨rfl, rfl, rfl, .nil, .nothing, nofun⟩
  refine h.invariant (P := fun _ es s => ∃ done hand blocks part,
    Record es s done hand blocks part) ⟨[], [], [], [], hstart⟩ ?_
  intro _ _ _ _ _ _ _ ⟨done, hand, blocks, part, hrecord⟩ hstep
  exact hrecord.step hstep

theorem ending_of_path (h : Path step (new topic capacity) as es s) : Ending s := by
  have hstart : Ending (new topic capacity) := ⟨fun hne => absurd rfl hne, nofun⟩
  exact h.invariant (P := fun _ _ s => Ending s) hstart fun _ hending hstep => hending.step hstep

theorem closers_of_path (h : Path step (new topic capacity) as es s) : Closers es s := by
  have hstart : Closers [] (new topic capacity) :=
    ⟨⟨fun _ => rfl, fun _ => rfl⟩, nofun, nofun, nofun⟩
  exact h.invariant (P := fun _ es s => Closers es s) hstart
    fun _ hclosers hstep => hclosers.step hstep

theorem thanked_eq_of_path (h : Path step (new topic capacity) as es s) :
    thanked es = (queued es).map (·.1) := by
  refine h.invariant (P := fun _ es _ => thanked es = (queued es).map (·.1)) rfl ?_
  intro _ es _ _ _ new _ heq hstep
  rw [thanked_append, queued_append, List.map_append, heq, thanked_eq_of_step hstep]

/-- Calls told apart at the end of a run were told apart all along. -/
theorem accounts_of_path (h : Path step (new topic capacity) as es s) (calls : Distinct as) :
    ∃ gone, Accounts (sends as) es s gone := by
  have hstart : Accounts (sends []) [] (new topic capacity) [] := ⟨.refl _, nofun⟩
  refine h.invariant (P := fun as es s => Distinct as → ∃ gone, Accounts (sends as) es s gone)
    (fun _ => ⟨[], hstart⟩) ?_ calls
  intro as _ _ a _ _ _ ih hstep hcalls
  -- The calls of a run are those before its last action, and the one that this begins.
  have hbefore : Distinct as := by
    unfold Distinct at hcalls ⊢
    rw [sends_append, List.map_append] at hcalls
    exact (List.nodup_append.mp hcalls).1
  obtain ⟨gone, haccounts⟩ := ih hbefore
  obtain ⟨gone', hnext⟩ := haccounts.step hbefore hstep
  rw [← sends_singleton, ← sends_append] at hnext
  exact ⟨gone', hnext⟩

/-! ## Delivery -/

/-- Once the task has exited, the queue is empty and nothing is in hand, so the record has a block
    for each message that entered the queue. -/
theorem complete_of_exited (h : Path step (new topic capacity) as es s)
    (exited : s.work = .idle .exited) : ∃ blocks, attempts es = blocks.flatten ∧
      starts es = (attempts es).map (·.envelope) ∧
      List.Forall₂ (fun p b => Block p.2 b) (queued es) blocks := by
  obtain ⟨done, hand, blocks, part, hrecord⟩ := record_of_path h
  have hhand := hrecord.inHand
  rw [exited] at hhand
  obtain ⟨rfl, rfl⟩ := hhand.of_idle
  have hempty : s.queue.items = [] := by
    refine ((ending_of_path h).empty ?_).2
    rw [exited]
    rfl
  have hqueued : queued es = done := by
    rw [hrecord.queued_eq, hempty, List.append_nil, List.append_nil]
  refine ⟨blocks, ?_, ?_, ?_⟩
  · rw [hrecord.attempts_eq, List.append_nil]
  · rw [hrecord.starts_eq, exited]
    exact List.append_nil _
  · rw [hqueued]
    exact hrecord.complete

/-- In every run of a publisher, whoever sends and closes when, however the sink answers: the
    attempts are one block after another, one for each message whose call to send returned well, in
    the order in which the messages entered the queue; no message of a caller who was turned away is
    among them; and all blocks are complete when the task has exited, which is what the first caller
    who closes the publisher waits for. -/
theorem delivered_in_blocks (h : Path step (new topic capacity) as es s) (calls : Distinct as) :
    Faithful as es s := by
  obtain ⟨gone, haccounts⟩ := accounts_of_path h calls
  refine ⟨thanked_eq_of_path h, ?_, ?_, record_of_path h, complete_of_exited h,
    (closers_of_path h).first⟩
  · intro p hp
    refine haccounts.perm.mem_iff.mp ?_
    exact List.mem_append_left _ (List.mem_append_left _ hp)
  · intro c hc
    exact haccounts.not_queued calls hc

/-- The publisher is closed while the first message is tried again: the third sender is turned away,
    and the second message is dropped after four attempts. -/
theorem delivered_in_blocks_closed_while_retrying :
    let e (payload : String) : Envelope := { topic := "offers", key := "offers", payload }
    let refuse : Action := .answer (.error (.sink "down"))
    let as : List Action := [.send 0 (e "a"), .task, .send 1 (e "b"), .send 2 (e "c"), refuse,
      .beginClose 3, .task, .resume 2, .answer (.ok ()), .task, .task, refuse, .task, refuse, .task,
      refuse, .task, refuse, .task, .resumeClose 3]
    ∃ es s, Path step (new "offers" 1) as es s ∧ Distinct as ∧ Faithful as es s ∧
      queued es = [(0, e "a"), (1, e "b")] ∧ losses es = [e "b"] ∧
      starts es = [e "a", e "a", e "b", e "b", e "b", e "b"] ∧
      ∃ blocks : List (List Attempt), attempts es = blocks.flatten ∧
        List.Forall₂ Block [e "a", e "b"] blocks := by
  intro e refuse as
  have hend : (follow step (new "offers" 1) as).map
      (fun m => (m.1.work, queued m.2, losses m.2, starts m.2)) =
      some (.idle .exited, [(0, e "a"), (1, e "b")], [e "b"],
        [e "a", e "a", e "b", e "b", e "b", e "b"]) := by
    decide +kernel
  have hcalls : Distinct as := by
    unfold Distinct
    decide
  obtain ⟨⟨s, es⟩, hfollow, hm⟩ := Option.map_eq_some_iff.mp hend
  simp only [Prod.mk.injEq] at hm
  obtain ⟨hwork, hqueued, hlosses, hstarts⟩ := hm
  have hpath := path_of_follow hfollow
  have hfaithful := delivered_in_blocks hpath hcalls
  obtain ⟨blocks, hflatten, -, hblocks⟩ := hfaithful.complete hwork
  rw [hqueued] at hblocks
  have hmap : List.Forall₂ Block [e "a", e "b"] blocks :=
    List.forall₂_map_left_iff (f := Prod.snd) (l := [(0, e "a"), (1, e "b")]).mpr hblocks
  exact ⟨es, s, hpath, hcalls, hfaithful, hqueued, hlosses, hstarts, blocks, hflatten, hmap⟩

end OfferService.Publisher
