import OfferService.Proofs.Saver.Core

/-
  OfferService.Proofs.Saver.Gate

  The door and the event loop together. `Behind` says that the door is behind the event loop: before
  a saver is initialized there is no event loop, who closes the saver goes on to its ticker only
  after the event loop has exited, and the saver has stopped only after that, or without an event
  loop; and the event loop exits only when it was asked to.
-/
namespace OfferService.Saver

/-! ## Beginnings and ends among the events -/

/-- Only an initialization that finds a fresh saver succeeds; the saver has no more stopped then
    than before. -/
theorem Door.Step.of_initialized {d d' : Door} {loop : Loop} {es : List Event}
    (h : Door.Step d loop es d') (hmem : .initialized (.ok ()) ∈ es) :
    d.lifecycle = .created ∧ d'.stopped = d.stopped ∧ ∀ c, .closeReturned c ∉ es := by
  cases h with
  | rest indoors => exact absurd (indoors _ hmem) nofun
  | init fresh => exact ⟨fresh, rfl, by simp⟩
  | _ => simp at hmem

/-- A call to close returns when the event loop has exited, after the saver has stopped, or at once
    if the saver is fresh; and then the saver has stopped. -/
theorem Door.Step.of_closeReturned {d d' : Door} {loop : Loop} {es : List Event} {c : Caller}
    (h : Door.Step d loop es d') (hmem : .closeReturned c ∈ es) :
    (d.lifecycle = .created ∨ loop = .idle .exited ∨ d.closing = .stopping c ∨
      d.stopped = true) ∧ d'.stopped = true := by
  cases h with
  | rest indoors => exact absurd (indoors _ hmem) nofun
  | closeFresh fresh => exact ⟨Or.inl fresh, rfl⟩
  | joinAlone joining exited => exact ⟨Or.inr (Or.inl exited), rfl⟩
  | @stop k log stopping =>
    have hc : c = k := by simpa using hmem
    rw [hc]
    exact ⟨Or.inr (Or.inr (Or.inl stopping)), rfl⟩
  | follow stopped => exact ⟨Or.inr (Or.inr (Or.inr stopped)), stopped⟩
  | _ => simp at hmem

/-- A saver that has stopped stays so. -/
theorem Door.Step.stopped {d d' : Door} {loop : Loop} {es : List Event}
    (h : Door.Step d loop es d') (hd : d.stopped = true) : d'.stopped = true := by
  cases h <;> first | rfl | exact hd

/-- A saver is asked to end by a call to close or by being dropped. -/
theorem Door.Step.asked {d d' : Door} {loop : Loop} {es : List Event}
    (h : Door.Step d loop es d') (hd : d'.shutdown = true) :
    d.shutdown = true ∨ (∃ c, .closeBegan c ∈ es) ∨ es = [.dropped] := by
  cases h with
  | closeFresh => exact Or.inr (Or.inl ⟨_, List.mem_cons_self⟩)
  | closeFirst => exact Or.inr (Or.inl ⟨_, List.mem_cons_self⟩)
  | closeLater => exact Or.inr (Or.inl ⟨_, List.mem_cons_self⟩)
  | drop => exact Or.inr (Or.inr rfl)
  | _ => exact Or.inl hd

/-- Without an event loop nothing happens to the core, unless it is started. -/
theorem Core.Step.of_absent {asked : Bool} {k k' : Core} {es : List Event}
    (h : Core.Step asked k es k') (absent : k.loop = .absent) :
    k' = k ∨ .initialized (.ok ()) ∈ es := by
  cases h with
  | rest => exact Or.inl rfl
  | wake => exact Or.inr (by simp)
  | drain idle => rw [absent] at idle; cases idle
  | refuse idle => rw [absent] at idle; cases idle
  | push idle => rw [absent] at idle; cases idle
  | fill idle => rw [absent] at idle; cases idle
  | flush occasion idle => rw [absent] at idle; cases idle
  | leave idle => rw [absent] at idle; cases idle
  | proceed busy => rw [absent] at busy; cases busy
  | settle busy => rw [absent] at busy; cases busy

/-- The event loop is there once it was started. -/
theorem Core.Step.ne_absent {asked : Bool} {k k' : Core} {es : List Event}
    (h : Core.Step asked k es k') (hk : k.loop ≠ .absent ∨ .initialized (.ok ()) ∈ es) :
    k'.loop ≠ .absent := by
  cases h with
  | rest quiet =>
    rcases hk with hk | hmem
    · exact hk
    · exact absurd hmem (quiet.not_mem rfl)
  | refuse idle => rw [idle]; nofun
  | push idle =>
    show k.loop ≠ .absent
    rw [idle]
    nofun
  | _ => nofun

/-- Does the event loop drain its mailbox, or has it exited, now or after its flush? -/
def Loop.isEnding (l : Loop) : Bool :=
  match l.station with
  | some .draining | some .exited => true
  | _ => false

/-- The event loop comes to its end only when it was asked to. -/
theorem Core.Step.isEnding {asked : Bool} {k k' : Core} {es : List Event}
    (h : Core.Step asked k es k') (hk : k'.loop.isEnding = true) :
    asked = true ∨ k.loop.isEnding = true := by
  cases h with
  | rest => exact Or.inr hk
  | wake => cases hk
  | drain idle told => exact Or.inl told
  | refuse => exact Or.inr hk
  | push => exact Or.inr hk
  | fill idle => rw [idle]; exact Or.inr hk
  | flush occasion idle =>
    rw [idle]
    cases occasion with
    | periodic => exact Or.inr hk
    | final => exact Or.inr rfl
  | leave idle => rw [idle]; exact Or.inr rfl
  | proceed busy => rw [busy]; exact Or.inr hk
  | settle busy => rw [busy]; exact Or.inr hk

/-! ## The door is behind the event loop -/

/-- How far the door of a saver may be while its event loop is at `loop`. -/
structure Behind (d : Door) (loop : Loop) : Prop where
  fresh : d.lifecycle = .created → loop = .absent ∧ d.stopped = false ∧ d.closing = .nobody
  stopping : ∀ c, d.closing = .stopping c → loop = .idle .exited
  stopped : d.stopped = true → loop = .absent ∨ loop = .idle .exited
  ending : loop.isEnding = true → d.shutdown = true

theorem Behind.step {d d' : Door} {k k' : Core} {es : List Event} (h : Behind d k.loop)
    (hd : Door.Step d k.loop es d') (hk : Core.Step d.shutdown k es k') : Behind d' k'.loop := by
  -- The event loop stays where it is once it has exited, and before it is started.
  have hstays : k.loop = .idle .exited → k'.loop = .idle .exited := by
    intro exited
    rw [(hk.eq_of_exited exited).1]
    exact exited
  have hfresh : d.lifecycle = .created → k'.loop = .absent ∨ .initialized (.ok ()) ∈ es := by
    intro created
    obtain ⟨absent, -, -⟩ := h.fresh created
    rcases hk.of_absent absent with hsame | hinit
    · rw [hsame]
      exact Or.inl absent
    · exact Or.inr hinit
  refine ⟨?_, ?_, ?_, ?_⟩
  · intro created'
    have created := hd.created created'
    obtain ⟨absent, running, nobody⟩ := h.fresh created
    cases hd with
    | init => cases created'
    | closeFresh => cases created'
    | closeFirst => cases created'
    | closeLater => cases created'
    | join joining => rw [nobody] at joining; cases joining
    | joinAlone joining => rw [nobody] at joining; cases joining
    | stop stopping => rw [nobody] at stopping; cases stopping
    | rest indoors =>
      rcases hfresh created with habsent | hinit
      · exact ⟨habsent, running, nobody⟩
      · exact absurd (indoors _ hinit) nofun
    | _ =>
      rcases hfresh created with habsent | hinit
      · exact ⟨habsent, running, nobody⟩
      · simp at hinit
  · intro c stopping'
    cases hd with
    | closeFirst => cases stopping'
    | join joining exited => exact hstays exited
    | joinAlone => cases stopping'
    | stop => cases stopping'
    | _ => exact hstays (h.stopping c stopping')
  · intro stopped'
    have hold : d.stopped = true → k'.loop = .absent ∨ k'.loop = .idle .exited := by
      intro stopped
      rcases h.stopped stopped with absent | exited
      · rcases hk.of_absent absent with hsame | hinit
        · rw [hsame]
          exact Or.inl absent
        · -- Only a fresh saver is initialized, and that has not stopped.
          obtain ⟨-, running, -⟩ := h.fresh (hd.of_initialized hinit).1
          rw [running] at stopped
          cases stopped
      · exact Or.inr (hstays exited)
    cases hd with
    | closeFresh fresh =>
      rcases hfresh fresh with habsent | hinit
      · exact Or.inl habsent
      · simp at hinit
    | joinAlone joining exited => exact Or.inr (hstays exited)
    | stop stopping => exact Or.inr (hstays (h.stopping _ stopping))
    | _ => exact hold stopped'
  · intro ending'
    apply hd.shutdown
    rcases hk.isEnding ending' with asked | ending
    · exact Or.inl asked
    · exact Or.inl (h.ending ending)

/-! ## Whole runs -/

section

variable {capacity groups : Nat} {ticker : Ticker} {s₀ s : State} {as : List Action}
  {es : List Event}

theorem behind_of_path (h : Path step s₀ as es s) (hnew : new capacity groups ticker = .ok s₀) :
    Behind s.door s.loop := by
  induction h with
  | refl =>
    obtain ⟨-, -, rfl⟩ := new_eq_ok hnew
    exact ⟨fun _ => ⟨rfl, rfl, rfl⟩, nofun, nofun, nofun⟩
  | @tail as es t a u new hrun hstep ih =>
    have hk := (coherent_of_path hrun (coherent_of_new hnew)).core_step hstep
    have hd : Door.Step t.door t.core.loop new u.door := door_step hstep
    exact Behind.step ih hd hk

/-- Once a call to close has returned, the saver has stopped. -/
theorem stopped_of_closeReturned {c : Caller} (h : Path step s₀ as es s)
    (hc : .closeReturned c ∈ es) : s.stopped = true := by
  induction h with
  | refl => cases hc
  | tail _ hstep ih =>
    rcases List.mem_append.mp hc with hold | hnow
    · exact (door_step hstep).stopped (ih hold)
    · exact ((door_step hstep).of_closeReturned hnow).2

/-- Once a saver is initialized, there is an event loop. -/
theorem ne_absent_of_initialized (h : Path step s₀ as es s) (hs : s₀.Coherent)
    (hinit : .initialized (.ok ()) ∈ es) : s.loop ≠ .absent := by
  refine core_induction h
    (P := fun es k => .initialized (.ok ()) ∈ es → k.loop ≠ .absent) hs nofun ?_ hinit
  intro asked es k new k' _ ih hstep hmem
  apply hstep.ne_absent
  rcases List.mem_append.mp hmem with hold | hnow
  · exact Or.inl (ih hold)
  · exact Or.inr hnow

end

end OfferService.Saver
