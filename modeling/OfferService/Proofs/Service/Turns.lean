import OfferService.Proofs.Publisher.Moves
import OfferService.Proofs.Service.Callers

/-
  OfferService.Proofs.Service.Turns

  A service whose callers wait for each other: a request arrives only when no other is being
  handled. At any moment there is one handler or none, and while it waits, or others move, it
  changes by nothing but what it is told.
-/
namespace OfferService.Service

variable {s t : State} {a : Action} {m : Moved} {c k : Caller} {h h' : Handling}
  {hs : List (Caller × Handling)} {as : List Action} {es : List Event}

/-! ## One request after another -/

/-- Takes an action; a request can arrive only when no other is being handled. -/
def stepInTurn (s : State) : Action → Option Moved
  | .receive c r => if s.handlings.isEmpty then step s (.receive c r) else none
  | a => step s a

theorem step_of_stepInTurn (hstep : stepInTurn s a = some m) :
    step s a = some m ∧ ∀ c r, a = .receive c r → s.handlings = [] := by
  cases a with
  | receive c r =>
    unfold stepInTurn at hstep
    simp only [] at hstep
    split at hstep
    · rename_i idle
      exact ⟨hstep, fun _ _ _ => List.isEmpty_iff.mp idle⟩
    · cases hstep
  | _ => exact ⟨hstep, nofun⟩

/-! ## The handler -/

theorem eq_singleton (keys : hs.map (·.1) = [c]) (found : hs.lookup c = some h) :
    hs = [(c, h)] := by
  obtain ⟨p, rfl, rfl⟩ := List.map_eq_singleton_iff.mp keys
  rw [show [p] = [(p.1, p.2)] from rfl, List.lookup_cons_self] at found
  cases found
  rfl

/-- A handler that moves is the only one. -/
theorem handler_eq (only : s.handlings = [(k, h')]) (found : s.handling? c = some h) :
    k = c ∧ h' = h := by
  have hmem := mem_of_lookup found
  rw [only] at hmem
  cases List.mem_singleton.mp hmem
  exact ⟨rfl, rfl⟩

theorem handling?_of_only (only : s.handlings = [(c, h)]) : s.handling? c = some h := by
  rw [State.handling?, only]
  exact List.lookup_cons_self

/-- The handler goes on if it does not wait. -/
theorem step_handle (only : s.handlings = [(c, h)]) (free : h.isWaiting = false)
    (fault : Option Storage.Error) : step s (.handle c fault) = some (handle s c h fault) := by
  unfold step
  simp only [handling?_of_only only, free, Bool.false_eq_true, if_false]

/-- A handler that waits does not go on by itself. -/
theorem step_handle_of_waiting (only : s.handlings = [(c, h)]) (waits : h.isWaiting = true)
    (fault : Option Storage.Error) : step s (.handle c fault) = none := by
  unfold step
  simp only [handling?_of_only only, waits, if_true]

theorem handlings_setHandling (only : s.handlings = [(c, h)]) (h' : Handling) :
    (s.setHandling c h').handlings = [(c, h')] := by
  show s.handlings.map _ = _
  rw [only]
  exact congrArg (· :: []) (if_pos rfl)

theorem handlings_receive (nobody : s.handlings = []) (c : Caller) (r : Http.Request) :
    (receive s c r).1.handlings = [(c, { request := r, job := Api.jobOf r })] := by
  show s.handlings ++ _ = _
  rw [nobody]
  rfl

theorem handlings_endHandling (only : s.handlings = [(c, h)]) :
    (s.endHandling c).handlings = [] := by
  show s.handlings.filter _ = _
  rw [only, List.filter_singleton]
  simp

/-! ## Verdicts -/

/-- While the saver moves, the handler hears what it is told. -/
theorem handlings_afterSaver (only : s.handlings = [(c, h)]) (n : Saver.Moved) :
    (afterSaver s n).1.handlings = [(c, h.hear c (afterSaver s n).2)] := by
  obtain ⟨hs, hafter, hkept⟩ := exists_afterSaver s n
  have hkeys : (afterSaver s n).1.handlings.map (·.1) = [c] := by
    rw [hafter, hkept.keys, only]
    rfl
  refine eq_singleton hkeys ?_
  rw [← State.handling?, handling?_afterSaver, handling?_of_only only]
  rfl

/-- While the publisher moves, the handler hears what it is told. -/
theorem handlings_afterPublisher (only : s.handlings = [(c, h)]) (n : Publisher.Moved) :
    (afterPublisher s n).1.handlings = [(c, h.hear c (afterPublisher s n).2)] := by
  obtain ⟨hs, hafter, hkept⟩ := exists_afterPublisher s n
  have hkeys : (afterPublisher s n).1.handlings.map (·.1) = [c] := by
    rw [hafter, hkept.keys, only]
    rfl
  refine eq_singleton hkeys ?_
  rw [← State.handling?, handling?_afterPublisher, handling?_of_only only]
  rfl

theorem handlings_afterSaver_of_idle (nobody : s.handlings = []) (n : Saver.Moved) :
    (afterSaver s n).1.handlings = [] := by
  obtain ⟨handlings, hafter, hkept⟩ := exists_afterSaver s n
  have hkeys := hkept.keys
  rw [nobody] at hkeys
  rw [hafter]
  exact List.map_eq_nil_iff.mp hkeys

theorem handlings_afterPublisher_of_idle (nobody : s.handlings = []) (n : Publisher.Moved) :
    (afterPublisher s n).1.handlings = [] := by
  obtain ⟨handlings, hafter, hkept⟩ := exists_afterPublisher s n
  have hkeys := hkept.keys
  rw [nobody] at hkeys
  rw [hafter]
  exact List.map_eq_nil_iff.mp hkeys

/-- If each event either says nothing to a handler or sets it free, then only the first one counts
    that does. -/
theorem Handling.hear_cases {P : Handling → Prop} (told : ∀ e ∈ es, Event.tell c h e = h ∨
    P (Event.tell c h e) ∧ (Event.tell c h e).isWaiting = false) :
    h.hear c es = h ∨ P (h.hear c es) := by
  induction es with
  | nil => exact Or.inl rfl
  | cons e es ih =>
    show (Event.tell c h e).hear c es = h ∨ P ((Event.tell c h e).hear c es)
    rcases told e List.mem_cons_self with hsame | ⟨hp, free⟩
    · rw [hsame]
      exact ih fun e he => told e (List.mem_cons_of_mem _ he)
    · rw [hear_of_free free]
      exact Or.inr hp

/-- What the saver tells is of use only to who saves, and waits for that. -/
theorem Handling.hear_saver (c : Caller) (h : Handling) (es : List Saver.Event) :
    h.hear c (es.map .saver) = h ∨ ∃ o next v, h.job = .save o next ∧ h.isWaiting = true ∧
      h.hear c (es.map .saver) = { h with job := next v, isWaiting := false } := by
  let P (h' : Handling) : Prop := ∃ o next v, h.job = .save o next ∧ h.isWaiting = true ∧
    h' = { h with job := next v, isWaiting := false }
  refine hear_cases (P := P) fun e he => ?_
  obtain ⟨e, -, rfl⟩ := List.mem_map.mp he
  cases e with
  | returned k v =>
    unfold Event.tell
    by_cases hc : k = c
    · simp only [if_pos hc, goOn]
      split
      · rename_i waits
        cases hjob : h.job with
        | save o next => exact Or.inr ⟨⟨o, next, v, hjob, waits, rfl⟩, rfl⟩
        | _ => exact Or.inl rfl
      · exact Or.inl rfl
    · exact Or.inl (if_neg hc)
  | _ => exact Or.inl rfl

/-- What the publisher tells is of use only to who publishes, and waits for that. -/
theorem Handling.hear_publisher (c : Caller) (h : Handling) (es : List Publisher.Event) :
    h.hear c (es.map .publisher) = h ∨ ∃ kind id next v, h.job = .publish kind id next ∧
      h.isWaiting = true ∧
      h.hear c (es.map .publisher) = { h with job := next v, isWaiting := false } := by
  let P (h' : Handling) : Prop := ∃ kind id next v, h.job = .publish kind id next ∧
    h.isWaiting = true ∧ h' = { h with job := next v, isWaiting := false }
  refine hear_cases (P := P) fun e he => ?_
  obtain ⟨e, -, rfl⟩ := List.mem_map.mp he
  cases e with
  | returned k v =>
    unfold Event.tell
    by_cases hc : k = c
    · simp only [if_pos hc, goOn]
      split
      · rename_i waits
        cases hjob : h.job with
        | publish kind id next => exact Or.inr ⟨⟨kind, id, next, v, hjob, waits, rfl⟩, rfl⟩
        | _ => exact Or.inl rfl
      · exact Or.inl rfl
    · exact Or.inl (if_neg hc)
  | _ => exact Or.inl rfl

/-- Nobody hears of what returns no call. -/
theorem Handling.hear_of_silent {es : List Publisher.Event} (silent : ∀ k v, .returned k v ∉ es)
    (c : Caller) (h : Handling) : h.hear c (es.map .publisher) = h := by
  refine (hear_cases (P := fun _ => False) fun e he => ?_).resolve_right id
  obtain ⟨e, hmem, rfl⟩ := List.mem_map.mp he
  cases e with
  | returned k v => exact absurd hmem (silent k v)
  | _ => exact Or.inl rfl

/-- Who is told that its call has returned goes on. -/
theorem Handling.hear_returned {b : List Publisher.Event} {kind : EventKind} {id : UInt64}
    {next : Publisher.Verdict → Api.Job} (silent : ∀ k v, .returned k v ∉ b)
    (waits : h.isWaiting = true) (job : h.job = .publish kind id next) (c : Caller)
    (v : Publisher.Verdict) :
    h.hear c ((b ++ [Publisher.Event.returned c v]).map .publisher) =
      { h with job := next v, isWaiting := false } := by
  rw [List.map_append, hear_append, hear_of_silent silent]
  show Event.tell c h (.publisher (.returned c v)) = _
  simp only [Event.tell, if_true, goOn, waits, job, afterPublish]

end OfferService.Service
