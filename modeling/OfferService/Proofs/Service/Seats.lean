import OfferService.Proofs.Saver.Visit
import OfferService.Proofs.Service.Callers

/-
  OfferService.Proofs.Service.Seats

  Handlers at the desk of the saver. A handler makes its calls to save one after another, so a
  caller has something at the desk only while its handler waits for the saver, and then one offer in
  one place. `Seat` says so, and `Seat.step` what every action makes of it: the call goes on, or it
  returns and the handler goes on with the verdict.
-/
namespace OfferService.Service

open OfferService.Saver (Slot Visit pushes verdicts)

variable {s : State} {c k : Caller} {h h' : Handling} {a : Action} {m : Moved} {es : List Event}
  {o : Offer} {next : Saver.Verdict → Api.Job} {fault : Option Storage.Error}

/-! ## The desk in a service -/

/-- The offer that a job hands to the saver first. -/
def handed : Api.Job → Option Offer
  | .save o _ => some o
  | _ => none

theorem handed_eq_none {job : Api.Job} (none : ∀ o next, job ≠ .save o next) :
    handed job = .none := by
  cases job with
  | save o next => exact absurd rfl (none o next)
  | _ => rfl

/-- The call to save that an action begins. -/
def begun (s : State) : Action → List (Caller × Offer)
  | .handle k _ => (((s.handling? k).bind fun h => handed h.job).map (k, ·)).toList
  | _ => []

theorem begun_of_save (found : s.handling? c = some h) (job : h.job = .save o next)
    (fault : Option Storage.Error) : begun s (.handle c fault) = [(c, o)] := by
  simp [begun, found, job, handed]

theorem begun_of_ne_save (found : s.handling? c = some h) (none : ∀ o next, h.job ≠ .save o next)
    (fault : Option Storage.Error) : begun s (.handle c fault) = [] := by
  simp [begun, found, handed_eq_none none]

theorem entries_begun_of_others (others : ∀ fault, a ≠ .handle c fault) :
    entries c (begun s a) = [] := by
  cases a with
  | handle k fault =>
    have hne : k ≠ c := fun heq => others fault (by rw [heq])
    show entries c (((s.handling? k).bind fun h => handed h.job).map (k, ·)).toList = []
    cases (s.handling? k).bind fun h => handed h.job with
    | none => rfl
    | some o => exact entries_cons_of_ne hne o []
  | _ => rfl

/-- A handler that hands an offer over makes a call to save. -/
theorem handle_of_save (job : h.job = .save o next) (s : State) (c : Caller)
    (fault : Option Storage.Error) : handle s c h fault =
      afterSaver (s.setHandling c { h with isWaiting := true }) (Saver.save s.saver c o) := by
  unfold handle
  rw [job]

/-- A move of the service is one of its saver that begins the same call to save, or nothing to it. -/
theorem Move.saver_step (hmove : Move s a m) :
    (∃ b, Saver.step s.saver b = some (m.1.saver, saverEvents m.2) ∧ b.begun = begun s a) ∨
      m.1.saver = s.saver ∧ saverEvents m.2 = [] ∧ begun s a = [] := by
  have hafter {b : Saver.Action} {n : Saver.Moved} {t : State}
      (hstep : Saver.step s.saver b = some n) :
      Saver.step s.saver b = some ((afterSaver t n).1.saver, saverEvents (afterSaver t n).2) := by
    obtain ⟨hsaver, hevents⟩ := afterSaver_saver t n
    rw [hsaver, hevents]
    exact hstep
  cases hmove with
  | receive => exact Or.inr ⟨rfl, rfl, rfl⟩
  | @handle k h fault found free =>
    by_cases hsave : ∃ o next, h.job = .save o next
    · obtain ⟨o, next, job⟩ := hsave
      rw [begun_of_save found job, handle_of_save job]
      exact Or.inl ⟨.save k o, hafter rfl, rfl⟩
    · have hnone : ∀ o next, h.job ≠ .save o next := fun o next job => hsave ⟨o, next, job⟩
      obtain ⟨hsaver, hevents⟩ := handle_aside hnone s k fault
      exact Or.inr ⟨hsaver, hevents, begun_of_ne_save found hnone fault⟩
  | @saver b n own move =>
    have hbegun : b.begun = [] := by cases b <;> first | rfl | cases own
    exact Or.inl ⟨b, hafter move, hbegun⟩
  | publisher =>
    obtain ⟨hsaver, hevents⟩ := afterPublisher_saver s _
    exact Or.inr ⟨hsaver, hevents, rfl⟩
  | store busy stored move => exact Or.inl ⟨.answer (.ok ()), hafter move, rfl⟩
  | refuse busy refused move => exact Or.inl ⟨.answer (.error _), hafter move, rfl⟩

/-- What an action of a service does at the desk of its saver. -/
theorem Move.desk_step (hmove : Move s a m)
    (calm : s.saver.lifecycle = .created → s.saver.loop = .absent) :
    Saver.Desk.Step s.saver.desk (begun s a) (saverEvents m.2) m.1.saver.desk := by
  rcases hmove.saver_step with ⟨b, hstep, hbegun⟩ | ⟨hsaver, hevents, hbegun⟩
  · rw [← hbegun]
    exact Saver.desk_step calm hstep
  · rw [hsaver, hevents, hbegun]
    exact .rest Saver.aside_nil

/-! ## Who waits for the saver -/

/-- A handler that waits still has heard nothing. -/
theorem Handling.hear_of_waiting (waits : (h.hear c es).isWaiting = true) : h.hear c es = h := by
  have hgo (next : Api.Job → Option Api.Job) :
      h.goOn next = h ∨ (h.goOn next).isWaiting = false := by
    unfold goOn
    split
    · split
      · exact Or.inr rfl
      · exact Or.inl rfl
    · exact Or.inl rfl
  induction es with
  | nil => rfl
  | cons e es ih =>
    have htell : e.tell c h = h ∨ (e.tell c h).isWaiting = false := by
      unfold Event.tell
      split
      · split
        · exact hgo _
        · exact Or.inl rfl
      · split
        · exact hgo _
        · exact Or.inl rfl
      · exact Or.inl rfl
    change ((e.tell c h).hear c es).isWaiting = true at waits
    show (e.tell c h).hear c es = h
    rcases htell with hsame | free
    · rw [hsame] at waits ⊢
      exact ih waits
    · rw [hear_of_free free, free] at waits
      cases waits

/-- A handler that waits for the saver goes on with the first verdict that its caller gets. -/
theorem Handling.hear_of_save (job : h.job = .save o next) (waits : h.isWaiting = true)
    (c : Caller) (es : List Event) :
    h.hear c es =
      match entries c (verdicts (saverEvents es)) with
      | [] => h
      | v :: _ => { h with job := next v, isWaiting := false } := by
  induction es with
  | nil => rfl
  | cons e es ih =>
    show (e.tell c h).hear c es = _
    cases e with
    | saver e =>
      cases e with
      | returned k v =>
        by_cases hc : k = c
        · subst hc
          have htell : Event.tell k h (.saver (.returned k v)) =
              { h with job := next v, isWaiting := false } := by
            simp only [Event.tell, if_true, goOn, waits, job, afterSave]
          have hlist : entries k (verdicts (saverEvents (.saver (.returned k v) :: es))) =
              v :: entries k (verdicts (saverEvents es)) := entries_cons_self k v _
          rw [htell, hlist, hear_of_free rfl]
        · have htell : Event.tell c h (.saver (.returned k v)) = h := if_neg hc
          have hlist : entries c (verdicts (saverEvents (.saver (.returned k v) :: es))) =
              entries c (verdicts (saverEvents es)) := entries_cons_of_ne hc v _
          rw [htell, hlist]
          exact ih
      | _ => exact ih
    | publisher e =>
      cases e with
      | returned k v =>
        -- A verdict of the publisher is not what it waits for.
        have htell : Event.tell c h (.publisher (.returned k v)) = h := by
          simp [Event.tell, goOn, waits, job, afterPublish]
        rw [htell]
        exact ih
      | _ => exact ih
    | _ => exact ih

/-- Only a handler that has begun to save or to publish waits after its own action. -/
theorem waiting_of_handle (found : s.handling? c = some h) (free : h.isWaiting = false)
    (after : (handle s c h fault).1.handling? c = some h') (waits : h'.isWaiting = true) :
    h' = { h with isWaiting := true } := by
  have hset {t : State} {j : Api.Job} (ht : t.handling? c = some h)
      (after : (t.setHandling c { h with job := j }).handling? c = some h') :
      h' = { h with isWaiting := true } := by
    rw [handling?_setHandling ht] at after
    cases after
    rw [free] at waits
    cases waits
  have hhear {t : State} {es : List Event}
      (ht : t.handling? c = ((s.setHandling c { h with isWaiting := true }).handling? c).map
        (·.hear c es))
      (after : t.handling? c = some h') : h' = { h with isWaiting := true } := by
    rw [ht, handling?_setHandling found] at after
    cases after
    exact Handling.hear_of_waiting waits
  generalize hm : handle s c h fault = m at after
  cases handle_cases hm with
  | answer =>
    rw [handling?_endHandling] at after
    cases after
  | save => exact hhear (handling?_afterSaver _ c _) after
  | publish => exact hhear (handling?_afterPublisher _ c _) after
  | @stored α q log next x u => exact hset (t := { s with store := u }) found after
  | @failed α q log next e u => exact hset (t := { s with store := u }) found after
  | @count change next => exact hset (t := { s with metrics := change s.metrics }) found after
  | log => exact hset found after

/-- A handler that is new does not wait. -/
theorem Move.free_of_fresh (hmove : Move s a m) (fresh : s.handling? c = none)
    (found : m.1.handling? c = some h) : ¬ h.isWaiting = true := by
  by_cases hreceive : ∃ r, a = .receive c r
  · obtain ⟨r, rfl⟩ := hreceive
    cases hmove with
    | receive =>
      rw [handling?_receive fresh] at found
      cases found
      exact Bool.false_ne_true
  · rw [hmove.handling?_eq_none fresh fun r ha => hreceive ⟨r, ha⟩] at found
    cases found

/-! ## Seats -/

/-- What a caller has at the desk, with the offer of its call that is pushed already: nothing, or
    the offer that its handler waits for. -/
inductive Seat (c : Caller) (s : State) : List Offer → Prop
  | away (slot : s.saver.desk.slot c = .empty)
      (idle : ∀ h, s.handling? c = some h → h.isWaiting = true → ∀ o next, h.job ≠ .save o next) :
      Seat c s []
  | underway {h o next pushed} (found : s.handling? c = some h) (job : h.job = .save o next)
      (waits : h.isWaiting = true) (visit : Visit o pushed [] (s.saver.desk.slot c)) :
      Seat c s pushed

/-- What a move comes to for a caller of whose call `pushed` was pushed before and `pushed'` now. -/
inductive Seat.Outcome (c : Caller) (s : State) (m : Moved) (pushed pushed' : List Offer) : Prop
  | still (silent : entries c (verdicts (saverEvents m.2)) = [])
      (more : pushed' = pushed ++ entries c (pushes (saverEvents m.2)))
      (same : ∀ h o next, s.handling? c = some h → h.job = .save o next →
        ∃ isWaiting, m.1.handling? c = some { h with isWaiting })
  /-- The call returns, and the handler goes on. -/
  | told {h o next v} (found : s.handling? c = some h) (job : h.job = .save o next)
      (heard : m.1.handling? c = some { h with job := next v, isWaiting := false })
      (verdict : entries c (verdicts (saverEvents m.2)) = [v])
      (visit : Visit o (pushed ++ entries c (pushes (saverEvents m.2))) [v] .empty)
      (spent : pushed' = [])

/-- A call goes on as its desk does. -/
theorem Seat.of_visit {pushed : List Offer}
    (found : s.handling? c = some h) (job : h.job = .save o next)
    (after : m.1.handling? c = some (({ h with isWaiting := true } : Handling).hear c m.2))
    (visit : Visit o (pushed ++ entries c (pushes (saverEvents m.2)))
      (entries c (verdicts (saverEvents m.2))) (m.1.saver.desk.slot c)) :
    ∃ pushed', Seat c m.1 pushed' ∧ Seat.Outcome c s m pushed pushed' := by
  have hhear := Handling.hear_of_save (h := { h with isWaiting := true }) job rfl c m.2
  generalize hslot : m.1.saver.desk.slot c = slot at visit
  cases htold : entries c (verdicts (saverEvents m.2)) with
  | nil =>
    rw [htold] at hhear visit
    rw [hhear] at after
    refine ⟨_, .underway after job rfl (hslot ▸ visit), .still htold rfl ?_⟩
    intro h' _ _ found' _
    rw [found] at found'
    cases found'
    exact ⟨true, after⟩
  | cons v rest =>
    rw [htold] at hhear visit
    rw [hhear] at after
    have hend : rest = [] ∧ slot = .empty := by
      generalize pushed ++ entries c (pushes (saverEvents m.2)) = all at visit
      cases visit with
      | thanked => exact ⟨rfl, rfl⟩
      | rejected => exact ⟨rfl, rfl⟩
    obtain ⟨rfl, rfl⟩ := hend
    refine ⟨[], .away hslot ?_, .told found job after htold visit rfl⟩
    intro h' found' waits
    rw [after] at found'
    cases found'
    cases waits

/-- What every move makes of what a caller has at the desk. -/
theorem Seat.step {pushed : List Offer} (hseat : Seat c s pushed) (hmove : Move s a m)
    (hs : s.saver.Coherent) (hd : s.saver.desk.Sound) :
    ∃ pushed', Seat c m.1 pushed' ∧ Seat.Outcome c s m pushed pushed' := by
  have hslot := (hmove.desk_step hs.absent_of_created).slot hd c
  by_cases hown : ∃ fault, a = .handle c fault
  · obtain ⟨fault, rfl⟩ := hown
    cases hmove with
    | @handle _ h _ found free =>
      cases hseat with
      | underway found' job waits =>
        -- Who waits makes no move.
        rw [found] at found'
        cases found'
        rw [waits] at free
        cases free
      | away slot =>
        rw [slot] at hslot
        by_cases hsave : ∃ o next, h.job = .save o next
        · obtain ⟨o, next, job⟩ := hsave
          rw [begun_of_save found job, entries_cons_self, entries_nil] at hslot
          refine Seat.of_visit found job ?_ hslot.visit
          rw [handle_of_save job, handling?_afterSaver, handling?_setHandling found]
          rfl
        · have hnone : ∀ o next, h.job ≠ .save o next := fun o next job => hsave ⟨o, next, job⟩
          obtain ⟨hsaver, hevents⟩ := handle_aside hnone s c fault
          refine ⟨[], .away (by rw [hsaver]; exact slot) ?_, .still ?_ ?_ ?_⟩
          · intro h' found' waits
            rw [waiting_of_handle found free found' waits]
            exact hnone
          · rw [hevents]
            rfl
          · rw [hevents]
            rfl
          · intro h' o next found' job
            rw [found] at found'
            cases found'
            exact absurd job (hnone o next)
  · have hothers : ∀ fault, a ≠ .handle c fault := fun fault ha => hown ⟨fault, ha⟩
    rw [entries_begun_of_others hothers] at hslot
    cases hseat with
    | away slot idle =>
      rw [slot] at hslot
      obtain ⟨hpushed, htold, hempty⟩ := hslot.of_empty
      refine ⟨[], .away hempty ?_, .still htold (by rw [hpushed]; rfl) ?_⟩
      · intro h' found' waits
        cases found : s.handling? c with
        | some h =>
          rw [hmove.handling?_eq found hothers] at found'
          cases found'
          have hsame := Handling.hear_of_waiting waits
          rw [hsame] at waits ⊢
          exact idle h found waits
        | none => exact absurd waits (hmove.free_of_fresh found found')
      · intro h o next found job
        have free : h.isWaiting = false := by
          apply Bool.eq_false_iff.mpr
          intro waits
          exact idle h found waits o next job
        refine ⟨false, ?_⟩
        rw [hmove.handling?_of_free found free hothers, ← free]
    | @underway h o next _ found job waits visit =>
      refine Seat.of_visit found job ?_ (visit.step hslot)
      have hsame : ({ h with isWaiting := true } : Handling) = h := by rw [← waits]
      rw [hmove.handling?_eq found hothers, hsame]

/-! ## Whole runs -/

section

variable {capacity groups : Nat} {ticker : Ticker} {s₀ t : State} {as bs : List Action}
  {fs : List Event}

/-- The saver in a service, whatever has happened, is in good order. -/
theorem saver_of_path (hnew : Saver.new capacity groups ticker = .ok s₀.saver)
    (hrun : Path step s₀ as es s) : s.saver.Coherent ∧ s.saver.desk.Sound := by
  obtain ⟨bs, hsaver⟩ := exists_saver_run hrun
  exact ⟨Saver.coherent_of_path hsaver (Saver.coherent_of_new hnew),
    Saver.desk_sound_of_path hsaver hnew⟩

/-- The calls to save in a run of a service are those that its handlers begin. -/
theorem exists_saver_saves (h : Path step s₀ as es s) :
    ∃ bs, Path Saver.step s₀.saver bs (saverEvents es) s.saver ∧
      Saver.saves bs = gathered step begun s₀ as := by
  induction h with
  | refl => exact ⟨[], .refl, rfl⟩
  | @tail as es t a u new hpath hstep ih =>
    obtain ⟨bs, hrun, hsaves⟩ := ih
    rw [saverEvents_append, gathered_concat hpath hstep, ← hsaves]
    rcases (move_cases hstep).saver_step with ⟨b, hb, hbegun⟩ | ⟨hsaver, hevents, hbegun⟩
    · refine ⟨bs ++ [b], hrun.tail hb, ?_⟩
      rw [Saver.saves_append, Saver.saves_singleton, hbegun]
    · refine ⟨bs, ?_, ?_⟩
      · rw [hevents, List.append_nil]
        exact hsaver ▸ hrun
      · rw [hbegun, List.append_nil]

/-- Every caller is in its seat, in every run from a service that handles nothing and has a saver
    that was not used. -/
theorem exists_seat (hnew : Saver.new capacity groups ticker = .ok s₀.saver)
    (fresh : s₀.handlings = []) (hrun : Path step s₀ as es s) (c : Caller) :
    ∃ pushed, Seat c s pushed := by
  induction hrun with
  | refl =>
    refine ⟨[], .away ?_ ?_⟩
    · rw [Saver.desk_of_new hnew]
      rfl
    · intro h found
      rw [State.handling?, fresh] at found
      cases found
  | tail hpath hstep ih =>
    obtain ⟨pushed, hseat⟩ := ih
    obtain ⟨hs, hd⟩ := saver_of_path hnew hpath
    obtain ⟨pushed', hseat', -⟩ := hseat.step (move_cases hstep) hs hd
    exact ⟨pushed', hseat'⟩

/-- Who has no handler has nothing at the desk. -/
theorem Seat.of_fresh {pushed : List Offer} (hseat : Seat c s pushed)
    (fresh : s.handling? c = none) : s.saver.desk.slot c = .empty ∧ pushed = [] := by
  cases hseat with
  | away slot => exact ⟨slot, rfl⟩
  | underway found =>
    rw [fresh] at found
    cases found

end

end OfferService.Service
