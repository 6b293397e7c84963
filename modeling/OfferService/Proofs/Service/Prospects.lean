import OfferService.Proofs.Service.Outline

/-
  OfferService.Proofs.Service.Prospects

  What lies ahead of a service. From the outline of a service and the requests that are still to
  come one can tell how it will go on: the prospect of a service is where it stands when all is
  sent, counted, logged and answered that can be before anything is done with offers again.
-/
namespace OfferService.Service

open OfferService.Api (Heedless)
open OfferService.Http (Request Response)

variable {s y : State} {a : Action} {c : Caller} {h : Handling} {r : Request} {b : Response}
  {done : List (Request × Response)} {todo : List (Caller × Request)}

/-! ## Prospects -/

/-- Answers the request that is being handled, if nothing else is left to do for it. -/
def finish (s : State) (done : List (Request × Response)) : State × List (Request × Response) :=
  match s.handlings with
  | [(c, { request, job := .answer b, .. })] =>
    (s.endHandling c, done ++ [(request, Api.sent request b)])
  | _ => (s, done)

/-- Where a service stands when it must turn to offers again, the answers that were given by then,
    and the requests that are still to come. -/
structure Prospect where
  state : State
  answers : List (Request × Response)
  todo : List (Caller × Request)

/-- Answers one request after another for which nothing is done with offers. -/
def serve (s : State) (done : List (Request × Response)) : List (Caller × Request) → Prospect
  | [] => { state := (finish s done).1, answers := (finish s done).2, todo := [] }
  | (c, r) :: todo =>
    if (finish s done).1.handlings.isEmpty then
      serve (receive (finish s done).1 c r).1.outline (finish s done).2 todo
    else { state := (finish s done).1, answers := (finish s done).2, todo := (c, r) :: todo }

/-- What becomes of a prospect as something is done with offers. -/
def Prospect.act (p : Prospect) (a : Action) : Prospect :=
  match step p.state a with
  | some (t, _) => serve t.outline p.answers p.todo
  | none => p

/-! ## Serving -/

theorem serve_of_idle (nobody : s.handlings = []) :
    serve s done [] = { state := s, answers := done, todo := [] } := by
  simp only [serve, finish, nobody]

theorem serve_of_idle_cons (nobody : s.handlings = []) :
    serve s done ((c, r) :: todo) = serve (receive s c r).1.outline done todo := by
  rw [serve]
  simp only [finish, nobody, List.isEmpty_nil, if_true]

theorem serve_of_data (only : s.handlings = [(c, h)]) (data : h.job.isData = true) :
    serve s done todo = { state := s, answers := done, todo } := by
  have hfinish : finish s done = (s, done) := by
    obtain ⟨request, job, isWaiting⟩ := h
    unfold finish
    rw [only]
    cases job <;> first | rfl | cases data
  cases todo with
  | nil => rw [serve, hfinish]
  | cons p todo =>
    rw [serve, hfinish]
    simp [only]

theorem serve_of_answer (only : s.handlings = [(c, h)]) (job : h.job = .answer b) :
    serve s done todo = serve (s.endHandling c) (done ++ [(h.request, Api.sent h.request b)]) todo := by
  have hidle := handlings_endHandling only
  have hfinish : finish s done =
      (s.endHandling c, done ++ [(h.request, Api.sent h.request b)]) := by
    obtain ⟨request, _, isWaiting⟩ := h
    cases job
    unfold finish
    rw [only]
  cases todo with
  | nil => rw [serve_of_idle hidle, serve, hfinish]
  | cons p todo =>
    rw [serve_of_idle_cons hidle, serve, hfinish]
    simp [hidle]

/-- An outline of a service, in which nobody has anything to send, count or log. -/
structure Outlined (y : State) : Prop where
  single : Single y
  same : y.outline = y

theorem outlined_outline (hs : Single s) : Outlined s.outline :=
  ⟨single_outline hs, outline_outline hs⟩

/-- In an outline nobody is being served, or somebody is to be answered, or something is to be done
    with offers. -/
theorem Outlined.cases (hy : Outlined y) : y.handlings = [] ∨
    (∃ c h b, y.handlings = [(c, h)] ∧ h.job = .answer b) ∨
    ∃ c h, y.handlings = [(c, h)] ∧ h.job.isData = true := by
  cases hy.single with
  | idle nobody => exact Or.inl nobody
  | @busy c h only =>
    have hsame := congrArg State.handlings hy.same
    rw [outline_of_only only, only] at hsame
    have hstill : h.settle = h := (Prod.mk.inj (List.cons.inj hsame).1).2
    have hjob : h.job.still = h.job := congrArg Handling.job hstill
    rcases h.job.still_cases with data | ⟨b, answer⟩
    · exact Or.inr (Or.inr ⟨c, h, only, hjob ▸ data⟩)
    · exact Or.inr (Or.inl ⟨c, h, b, only, hjob ▸ answer⟩)

theorem Outlined.endHandling (hy : Outlined y) (only : y.handlings = [(c, h)]) :
    Outlined (y.endHandling c) := by
  have hidle := handlings_endHandling only
  have hsame := hy.same
  rw [outline_of_only only] at hsame
  have hmetrics : y.metrics.tallied = y.metrics :=
    (congrArg (fun u => u.metrics.tallied) hsame).symm.trans (congrArg State.metrics hsame)
  have hend : y.endHandling c = { y with handlings := [] } := congrArg (fun hs =>
    ({ y with handlings := hs } : State)) hidle
  refine ⟨.idle hidle, ?_⟩
  rw [outline_of_idle hidle, hend]
  show ({ store := y.store, saver := y.saver, publisher := Publisher.new "" 0
          metrics := y.metrics.tallied } : State) = _
  rw [hmetrics]
  exact congrArg (fun u => ({ u with metrics := y.metrics, handlings := [] } : State)) hsame

theorem outlined_receive (nobody : y.handlings = []) (c : Caller) (r : Request) :
    Outlined (receive y c r).1.outline :=
  outlined_outline (.busy (handlings_receive nobody c r) (Api.heedless_jobOf r))

/-- What holds of what is served: it is where a service stops before it turns to offers, with the
    same offers and the same saver, and nobody waits for the saver who did not. -/
structure Served (y : State) (p : Prospect) : Prop where
  outlined : Outlined p.state
  store : p.state.store = y.store
  saver : p.state.saver = y.saver
  unconcerned : Unconcerned y → Unconcerned p.state
  stops : serve p.state p.answers p.todo = p

theorem unconcerned_of_idle (nobody : y.handlings = []) : Unconcerned y := by
  intro c h only
  rw [nobody] at only
  cases only

theorem unconcerned_receive (nobody : y.handlings = []) (c : Caller) (r : Request) :
    Unconcerned (receive y c r).1.outline := by
  have honly := handlings_receive nobody c r
  refine unconcerned_outline (.busy honly (Api.heedless_jobOf r)) ?_
  intro c' h' only both
  rw [honly] at only
  cases only
  cases both.2

theorem serve_served (hy : Outlined y) (done : List (Request × Response))
    (todo : List (Caller × Request)) : Served y (serve y done todo) := by
  induction todo generalizing y done with
  | nil =>
    have hidle {y : State} (hy : Outlined y) (nobody : y.handlings = [])
        (done : List (Request × Response)) : Served y (serve y done []) := by
      rw [serve_of_idle nobody]
      exact ⟨hy, rfl, rfl, id, serve_of_idle nobody⟩
    rcases hy.cases with nobody | ⟨c, h, b, only, job⟩ | ⟨c, h, only, data⟩
    · exact hidle hy nobody done
    · rw [serve_of_answer only job]
      have hend := hidle (hy.endHandling only) (handlings_endHandling only)
        (done ++ [(h.request, Api.sent h.request b)])
      refine ⟨hend.outlined, hend.store, hend.saver, fun _ => ?_, hend.stops⟩
      exact hend.unconcerned (unconcerned_of_idle (handlings_endHandling only))
    · rw [serve_of_data only data]
      exact ⟨hy, rfl, rfl, id, serve_of_data only data⟩
  | cons p todo ih =>
    obtain ⟨k, r⟩ := p
    have hidle {y : State} (nobody : y.handlings = [])
        (done : List (Request × Response)) : Served y (serve y done ((k, r) :: todo)) := by
      rw [serve_of_idle_cons nobody]
      have hnext := ih (outlined_receive nobody k r) done
      exact ⟨hnext.outlined, hnext.store, hnext.saver,
        fun _ => hnext.unconcerned (unconcerned_receive nobody k r), hnext.stops⟩
    rcases hy.cases with nobody | ⟨c, h, b, only, job⟩ | ⟨c, h, only, data⟩
    · exact hidle nobody done
    · rw [serve_of_answer only job]
      have hend := hidle (handlings_endHandling only)
        (done ++ [(h.request, Api.sent h.request b)])
      refine ⟨hend.outlined, hend.store, hend.saver, fun _ => ?_, hend.stops⟩
      exact hend.unconcerned (unconcerned_of_idle (handlings_endHandling only))
    · rw [serve_of_data only data]
      exact ⟨hy, rfl, rfl, id, serve_of_data only data⟩

/-- The state with other offers and another saver. -/
def State.withData (s : State) (store : Storage.Store) (saver : Saver.State) : State :=
  { s with store, saver }

/-- Neither the offers nor the saver matter to what is answered before anything is done with them. -/
theorem serve_withData (hy : Outlined y) (done : List (Request × Response))
    (todo : List (Caller × Request)) (u : Storage.Store) (v : Saver.State) :
    serve (y.withData u v) done todo =
      { serve y done todo with state := (serve y done todo).state.withData u v } := by
  induction todo generalizing y done with
  | nil =>
    rcases hy.cases with nobody | ⟨c, h, b, only, job⟩ | ⟨c, h, only, data⟩
    · rw [serve_of_idle nobody, serve_of_idle (s := y.withData u v) nobody]
    · rw [serve_of_answer only job, serve_of_answer (s := y.withData u v) only job]
      have hnobody := handlings_endHandling only
      rw [serve_of_idle hnobody, serve_of_idle (s := (y.withData u v).endHandling c) hnobody]
      rfl
    · rw [serve_of_data only data, serve_of_data (s := y.withData u v) only data]
  | cons p todo ih =>
    obtain ⟨k, r⟩ := p
    have hidle {y : State} (nobody : y.handlings = []) (done : List (Request × Response)) :
        serve (y.withData u v) done ((k, r) :: todo) =
          { serve y done ((k, r) :: todo) with
            state := (serve y done ((k, r) :: todo)).state.withData u v } := by
      rw [serve_of_idle_cons nobody, serve_of_idle_cons (s := y.withData u v) nobody]
      exact ih (outlined_receive nobody k r) done
    rcases hy.cases with nobody | ⟨c, h, b, only, job⟩ | ⟨c, h, only, data⟩
    · exact hidle nobody done
    · rw [serve_of_answer only job, serve_of_answer (s := y.withData u v) only job]
      exact hidle (handlings_endHandling only) _
    · rw [serve_of_data only data, serve_of_data (s := y.withData u v) only data]

/-! ## Moves of the saver -/

/-- What the saver does, by itself or as storage answers it, it does to the prospect, too. -/
theorem serve_afterSaver {u : Storage.Store} {n : Saver.Moved} (hs : Single s)
    (own : ∀ y : State, y.saver = s.saver → y.store = s.store →
      ∃ new, step y a = some ((afterSaver { y with store := u } n).1, new))
    (done : List (Request × Response)) (todo : List (Caller × Request)) :
    serve (afterSaver { s with store := u } n).1.outline done todo =
      (serve s.outline done todo).act a := by
  have hsingle {y : State} (hy : Single y) : Single { y with store := u } :=
    hy.of_handlings_eq rfl
  have hserved := serve_served (outlined_outline hs) done todo
  obtain ⟨new, hstep⟩ := own _ hserved.saver hserved.store
  rw [Prospect.act, hstep]
  simp only []
  by_cases free : Unconcerned s
  · -- Nobody is told anything, now or in what is ahead.
    have hfree := hserved.unconcerned (unconcerned_outline hs free)
    rw [outline_afterSaver_of_unconcerned (hsingle hs) free,
      outline_afterSaver_of_unconcerned (hsingle hserved.outlined.single) hfree]
    have hahead : ({ (serve s.outline done todo).state with store := u } : State).outline =
        { (serve s.outline done todo).state with store := u } :=
      congrArg (fun y => ({ y with store := u } : State)) hserved.outlined.same
    rw [hahead]
    have hwith := serve_withData (outlined_outline hs) done todo u n.1
    have hwith' := serve_withData hserved.outlined (serve s.outline done todo).answers
      (serve s.outline done todo).todo u n.1
    rw [hserved.stops] at hwith'
    exact hwith.trans hwith'.symm
  · -- The handler waits for the saver, so the service stands where its prospect does.
    cases hs with
    | idle nobody => exact absurd (unconcerned_of_idle nobody) free
    | @busy c h only heedless =>
      have hsave : h.job.isSave = true ∧ h.isWaiting = true := by
        by_contra hnot
        refine free fun c' h' only' => ?_
        rw [only] at only'
        cases only'
        exact hnot
      have hdata := Api.Job.isData_of_isSave hsave.1
      have honly : s.outline.handlings = [(c, h)] := by
        rw [outline_of_only only, Handling.settle_of_isData hdata fun _ => hsave.1]
      rw [serve_of_data honly hdata]
      rw [outline_afterSaver (hsingle (.busy only heedless))]
      rfl

end OfferService.Service
