import OfferService.Proofs.Saver.Accounts

/-
  OfferService.Proofs.Saver.Capacity

  When offers are refused. The event loop flushes as soon as the buffer is full, so it finds a full
  buffer between two flushes only if the last flush left as much behind as it was given. No batch is
  empty, so that flush has stored no batch: storage refused its first one.
-/
namespace OfferService.Saver

/-! ## A flush that stored nothing -/

/-- The last flush that has ended was one of what is in the buffer now, and storage has refused its
    first batch. -/
def StoredNothing (groups : Nat) (buffer : List Offer) (es : List Event) : Prop :=
  ∃ before why first rest e later, Batch.split buffer groups = .ok (first :: rest) ∧
    es = before ++ .callEnded first (.error e) ::
      .flushEnded why ⟨buffer.length, buffer, some (.persist first.length e)⟩ :: later ∧
    flushes later = []

/-- No flush has ended since. -/
theorem StoredNothing.append {groups : Nat} {buffer : List Offer} {es fs : List Event}
    (h : StoredNothing groups buffer es) (hfs : flushes fs = []) :
    StoredNothing groups buffer (es ++ fs) := by
  obtain ⟨before, why, first, rest, e, later, hsplit, rfl, hlater⟩ := h
  refine ⟨before, why, first, rest, e, later ++ fs, hsplit, ?_, ?_⟩
  · rw [List.append_assoc]
    rfl
  · rw [flushes_append, hlater, hfs]
    rfl

theorem StoredNothing.exists_failure {groups : Nat} {buffer : List Offer} {es : List Event}
    (h : StoredNothing groups buffer es) : ∃ batch e, .callEnded batch (.error e) ∈ es := by
  obtain ⟨before, why, first, rest, e, later, -, rfl, -⟩ := h
  exact ⟨first, e, List.mem_append_right _ List.mem_cons_self⟩

/-- A flush that leaves as much behind as it was given has stored nothing. -/
theorem storedNothing_of_settle {k : Core} {why : Reason} {f : Batch.Flush Offer} {after : Station}
    {r : Except Storage.Error Unit} {o : Batch.Outcome Offer} (hk : k.Sound)
    (busy : k.loop = .flushing why f after) (answered : f.answer r = .ended o)
    (full : k.capacity ≤ o.remaining.length) (es : List Event) :
    StoredNothing k.groups o.remaining (es ++
      (.callEnded f.current r :: .flushEnded why o :: arrivalEvents after o.remaining.length)) := by
  obtain ⟨-, items, hcut, hle, -⟩ := hk.busy_of_flushing busy
  rcases Batch.Flush.answer_ended answered with ⟨-, -, rfl⟩ | ⟨e, rfl, rfl⟩
  · -- A flush that succeeds leaves nothing, and the capacity is not zero.
    have hpos := hk.capacity_pos
    have hzero : k.capacity ≤ 0 := full
    omega
  · -- The flush was given no more than the capacity, and all of it is left.
    have hunstored : k.capacity ≤ f.unstored.length := full
    have hnone : f.stored = [] := hcut.stored_eq_nil (by omega)
    have hitems : f.unstored = items := by
      have hall := hcut.stored_append_unstored
      rw [hnone] at hall
      exact hall
    have hsplit := hcut.split_eq
    rw [hnone, ← hitems] at hsplit
    refine ⟨es, why, f.current, f.later, e, arrivalEvents after f.unstored.length, hsplit, ?_, ?_⟩
    · rw [hcut.total_eq, ← hitems]
    · unfold arrivalEvents
      split <;> rfl

/-! ## Full buffers -/

/-- A full buffer between two flushes is one that the last flush has stored nothing of. -/
def FullAfterFailure (es : List Event) (k : Core) : Prop :=
  k.loop.flush? = none → k.capacity ≤ k.buffer.length → StoredNothing k.groups k.buffer es

theorem FullAfterFailure.step {asked : Bool} {es new : List Event} {k k' : Core} (hk : k.Sound)
    (h : FullAfterFailure es k) (hstep : Core.Step asked k new k') :
    FullAfterFailure (es ++ new) k' := by
  intro calm full
  cases hstep with
  | rest quiet => exact (h calm full).append quiet.flushes_eq_nil
  | wake absent => exact (h (by rw [absent]; rfl) full).append rfl
  | drain idle => exact (h (by rw [idle]; rfl) full).append rfl
  | refuse => exact (h calm full).append rfl
  | @push at_ c o idle alive room =>
    have hlen : (k.buffer ++ [o]).length = k.buffer.length + 1 := List.length_append
    have hfull : k.capacity ≤ (k.buffer ++ [o]).length := full
    omega
  | fill => cases calm
  | flush => cases calm
  | leave idle empty =>
    have hpos := hk.capacity_pos
    have hfull : k.capacity ≤ k.buffer.length := full
    rw [empty, List.length_nil] at hfull
    omega
  | proceed => cases calm
  | settle busy answered => exact storedNothing_of_settle hk busy answered full es

theorem Core.Step.full_of_refused {asked : Bool} {k k' : Core} {es : List Event} {c : Caller}
    {o : Offer} (h : Core.Step asked k es k') (hc : .refused c o ∈ es) :
    k.loop.flush? = none ∧ k.capacity ≤ k.buffer.length := by
  cases h with
  | rest quiet => exact absurd hc (quiet.not_mem rfl)
  | refuse idle alive full => exact ⟨by rw [idle]; rfl, full⟩
  | _ => simp at hc

/-! ## Whole runs -/

section

variable {capacity groups : Nat} {ticker : Ticker} {s₀ s t : State} {as : List Action}
  {es new : List Event} {a : Action} {c : Caller} {o : Offer}

theorem fullAfterFailure_of_path (h : Path step s₀ as es s)
    (hnew : Saver.new capacity groups ticker = .ok s₀) : FullAfterFailure es s.core := by
  refine core_induction h (P := FullAfterFailure) (coherent_of_new hnew) ?_ ?_
  · obtain ⟨hc, -, rfl⟩ := new_eq_ok hnew
    intro _ full
    have hfull : capacity ≤ 0 := full
    omega
  · intro asked es k new k' hk ih hstep
    exact ih.step hk hstep

/-- The event loop refuses an offer when the buffer is full and the last flush stored nothing. -/
theorem storedNothing_of_refused (h : Path step s₀ as es s)
    (hnew : Saver.new capacity groups ticker = .ok s₀) (hstep : step s a = some (t, new))
    (hc : .refused c o ∈ new) :
    s.buffer.length = capacity ∧ StoredNothing groups s.buffer es := by
  have hs := coherent_of_path h (coherent_of_new hnew)
  have hcapacity : s.core.capacity = capacity := (settings_eq_of_path h hnew).1
  have hgroups : s.core.groups = groups := (settings_eq_of_path h hnew).2
  obtain ⟨calm, full⟩ := (hs.core_step hstep).full_of_refused hc
  have hle := (hs.sound.calm calm).1
  have hfailed := fullAfterFailure_of_path h hnew calm full
  rw [hcapacity] at full hle
  rw [hgroups] at hfailed
  exact ⟨Nat.le_antisymm hle full, hfailed⟩

/-- An offer is refused only after a call to storage has failed. -/
theorem exists_failure_of_refused (h : Path step s₀ as es s)
    (hnew : Saver.new capacity groups ticker = .ok s₀) (hc : .refused c o ∈ es) :
    ∃ batch e, .callEnded batch (.error e) ∈ es := by
  induction h with
  | refl => cases hc
  | @tail as es t a u new hrun hstep ih =>
    have hbefore : ∃ batch e, .callEnded batch (.error e) ∈ es := by
      rcases List.mem_append.mp hc with hold | hnow
      · exact ih hold
      · exact (storedNothing_of_refused hrun hnew hstep hnow).2.exists_failure
    obtain ⟨batch, e, hmem⟩ := hbefore
    exact ⟨batch, e, List.mem_append_left _ hmem⟩

/-- A caller is told that the buffer is full only after the event loop has refused its offer. -/
theorem exists_refused_of_returned {n : Nat} (h : Path step s₀ as es s)
    (hnew : Saver.new capacity groups ticker = .ok s₀)
    (hv : .returned c (.error (.capacityReached n)) ∈ es) : ∃ o, .refused c o ∈ es := by
  rcases (truthful_of_path h hnew).returned c _ hv with (⟨hok, -⟩ | ⟨m, -, hc⟩) | ⟨e, he, haway⟩
  · cases hok
  · obtain ⟨p, hp, rfl⟩ := List.mem_map.mp hc
    obtain ⟨e, he, hp⟩ := List.mem_flatMap.mp hp
    cases e with
    | refused k o =>
      cases List.mem_singleton.mp hp
      exact ⟨o, he⟩
    | _ => cases hp
  · cases Except.error.inj he
    rcases haway with haway | haway <;> cases haway

/-- In every run of a saver, whoever moves when: at the moment an offer is refused the buffer holds
    as many offers as it may, the last flush was one of these, and storage refused its first batch.
    A caller gets the verdict that the buffer is full only for an offer that was refused. So no
    offer is refused, and no caller gets that verdict, as long as no call to storage fails. -/
theorem refused_only_after_total_failure (hnew : Saver.new capacity groups ticker = .ok s₀)
    (h : Path step s₀ as es s) :
    (∀ a t new c o, step s a = some (t, new) → .refused c o ∈ new →
      s.buffer.length = capacity ∧ StoredNothing groups s.buffer es) ∧
    (∀ c n, .returned c (.error (.capacityReached n)) ∈ es → ∃ o, .refused c o ∈ es) ∧
    ((∀ batch e, .callEnded batch (.error e) ∉ es) →
      (∀ c o, .refused c o ∉ es) ∧ ∀ c n, .returned c (.error (.capacityReached n)) ∉ es) := by
  refine ⟨?_, fun c n hv => exists_refused_of_returned h hnew hv, ?_⟩
  · intro a t new c o hstep hc
    exact storedNothing_of_refused h hnew hstep hc
  · intro hfine
    have hnone : ∀ c o, .refused c o ∉ es := by
      intro c o hc
      obtain ⟨batch, e, hmem⟩ := exists_failure_of_refused h hnew hc
      exact hfine batch e hmem
    refine ⟨hnone, ?_⟩
    intro c n hv
    obtain ⟨o, hc⟩ := exists_refused_of_returned h hnew hv
    exact hnone c o hc

end

/-- Two offers fill the buffer, storage refuses the first of the two batches, and the next offer is
    refused. -/
theorem refused_only_after_total_failure_third_offer :
    let s₀ : State := { capacity := 2, groups := 2, ticker := { period := .millis 1000 } }
    let offer (n : UInt64) : Offer := .fresh n 1 1
    let as : List Action := [.init, .save 0 (offer 1), .loop, .save 1 (offer 2), .loop,
      .answer (.error .zeroPageSize), .save 2 (offer 3)]
    new 2 2 { period := .millis 1000 } = .ok s₀ ∧
      ∃ es s, Path step s₀ as es s ∧ (step s .loop).map (fun m => refusals m.2) =
          some [(2, offer 3)] ∧
        ∀ t new c o, step s .loop = some (t, new) → .refused c o ∈ new →
          s.buffer.length = 2 ∧ StoredNothing 2 s.buffer es := by
  intro s₀ offer as
  have hnew : new 2 2 { period := .millis 1000 } = .ok s₀ := rfl
  have hend : (follow step s₀ as).bind (fun m => (step m.1 .loop).map (fun m => refusals m.2)) =
      some [(2, offer 3)] := by
    decide +kernel
  obtain ⟨⟨s, es⟩, hfollow, hm⟩ := Option.bind_eq_some_iff.mp hend
  have hrun := path_of_follow hfollow
  exact ⟨hnew, es, s, hrun, hm, (refused_only_after_total_failure hnew hrun).1 .loop⟩

end OfferService.Saver
