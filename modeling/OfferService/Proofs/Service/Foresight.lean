import OfferService.Proofs.Service.Prospects

/-
  OfferService.Proofs.Service.Foresight

  What is done with offers changes the prospect of a service in one way only, and nothing else
  changes it. So at the end of a run the prospect is what it was at the beginning, with all that was
  done with offers done to it in the same order.
-/
namespace OfferService.Service

open OfferService.Http (Request)

variable {s : State} {a : Action} {m : Moved} {c : Caller} {h : Handling}
  {fault : Option Storage.Error} {as : List Action} {es : List Event}

/-! ## Arrivals and steps with offers -/

/-- The request that arrived, and who sent it. -/
def Event.arrival : Event → List (Caller × Request)
  | .received c r => [(c, r)]
  | _ => []

/-- The requests that arrived, in that order, each with its caller. -/
def arrivals (es : List Event) : List (Caller × Request) := es.flatMap Event.arrival

@[simp] theorem arrivals_append (es fs : List Event) :
    arrivals (es ++ fs) = arrivals es ++ arrivals fs := List.flatMap_append

/-- Does the action do something with offers: is it a move of the saver, of storage, or of a handler
    that turns to one of them? -/
def touchesOffers (s : State) : Action → Bool
  | .receive .. => false
  | .handle c _ => (s.handling? c).any (·.job.isData)
  | .saver _ => true
  | .publisher _ => false
  | .storeBatch _ => true

/-- Is it a move of the saver, or does storage answer it? -/
def movesSaver : Action → Bool
  | .saver _ => true
  | .storeBatch _ => true
  | _ => false

/-- The prospect of a service. -/
def ahead (s : State) (es : List Event) (todo : List (Caller × Request)) : Prospect :=
  serve s.outline (answers es) todo

/-! ## Moves of the saver and of storage -/

/-- Moves of the saver, and answers of storage to it, are the same for all services with the same
    saver and the same offers. -/
theorem Move.own_saver (hmove : Move s a m) (others : movesSaver a = true) :
    ∃ u n, m.1 = (afterSaver { s with store := u } n).1 ∧ answers m.2 = [] ∧ arrivals m.2 = [] ∧
      ∀ y : State, y.saver = s.saver → y.store = s.store →
        ∃ new, step y a = some ((afterSaver { y with store := u } n).1, new) := by
  have harrivals (es : List Saver.Event) : arrivals (es.map .saver) = [] :=
    flatMap_map_eq_nil (fun _ => rfl) es
  cases hmove with
  | receive => cases others
  | handle => cases others
  | publisher => cases others
  | @saver b n own move =>
    refine ⟨s.store, n, rfl, (inside_saver n.2).answers, harrivals n.2, ?_⟩
    intro y saver store
    have hsame : ({ y with store := s.store } : State) = y := by rw [← store]
    refine ⟨(afterSaver y n).2, ?_⟩
    rw [hsame]
    show (if isOwnOfSaver b then (Saver.step y.saver b).map (afterSaver y) else none) = _
    rw [if_pos own, saver, move]
    rfl
  | @store why f after fault count u n busy stored move =>
    refine ⟨u, n, rfl, (inside_saver n.2).answers, harrivals n.2, ?_⟩
    intro y saver store
    refine ⟨.logged (Storage.Store.batchLog count) :: (afterSaver { y with store := u } n).2, ?_⟩
    unfold step storeBatch
    simp only [saver, busy, store, stored]
    show Option.map _ (Saver.answer s.saver (.ok ())) = _
    rw [move]
    rfl
  | @refuse why f after fault e u n busy refused move =>
    refine ⟨u, n, rfl, (inside_saver n.2).answers, harrivals n.2, ?_⟩
    intro y saver store
    refine ⟨(afterSaver { y with store := u } n).2, ?_⟩
    unfold step storeBatch
    simp only [saver, busy, store, refused]
    show Option.map _ (Saver.answer s.saver (.error e)) = _
    rw [move]
    rfl

/-! ## Every action -/

/-- What handlers do when they do not answer is no arrival and no answer. -/
theorem inside_handle (unanswered : ∀ b, h.job ≠ .answer b) (s : State) (c : Caller)
    (fault : Option Storage.Error) :
    answers (handle s c h fault).2 = [] ∧ arrivals (handle s c h fault).2 = [] := by
  have hsaver (es : List Saver.Event) : answers (es.map .saver) = [] ∧ arrivals (es.map .saver) = [] :=
    ⟨(inside_saver es).answers, flatMap_map_eq_nil (fun _ => rfl) es⟩
  have hpublisher (es : List Publisher.Event) :
      answers (es.map .publisher) = [] ∧ arrivals (es.map .publisher) = [] :=
    ⟨(inside_publisher es).answers, flatMap_map_eq_nil (fun _ => rfl) es⟩
  generalize hm : handle s c h fault = m
  cases handle_cases hm with
  | answer job => exact absurd job (unanswered _)
  | save => exact hsaver _
  | publish => exact hpublisher _
  | _ => exact ⟨rfl, rfl⟩

/-- What does nothing with offers leaves the prospect as it is. -/
theorem ahead_of_aside (hs : Single s) (hmove : Move s a m)
    (inTurn : ∀ c r, a = .receive c r → s.handlings = []) (aside : touchesOffers s a = false)
    (es : List Event) (todo : List (Caller × Request)) :
    ahead m.1 (es ++ m.2) todo = ahead s es (arrivals m.2 ++ todo) := by
  unfold ahead
  rw [answers_append]
  cases hmove with
  | @receive c r fresh =>
    have nobody := inTurn c r rfl
    show serve _ (answers es ++ []) todo = serve _ _ ((c, r) :: todo)
    have hnobody : s.outline.handlings = [] := by rw [outline_of_idle nobody]
    rw [List.append_nil, serve_of_idle_cons hnobody, outline_receive nobody]
  | @handle c h fault found free =>
    obtain ⟨only, heedless⟩ := hs.handler found
    have data : h.job.isData = false := by
      simpa [touchesOffers, handling?_of_only only] using aside
    by_cases answer : ∃ b, h.job = .answer b
    · -- The answer was ahead; now it has been given.
      obtain ⟨b, job⟩ := answer
      have honly : s.outline.handlings = [(c, h.settle)] := by rw [outline_of_only only]
      have hjob : h.settle.job = .answer b := by
        show h.job.still = _
        rw [job]
        rfl
      have hend : (s.endHandling c).outline = s.outline.endHandling c := by
        rw [outline_of_idle (handlings_endHandling only), outline_of_only only, job]
        simp [State.endHandling, Api.Job.tally]
      have hhandle : handle s c h fault =
          (s.endHandling c, [.answered c h.request (Api.sent h.request b)]) := by
        unfold handle
        rw [job]
      rw [hhandle, hend]
      exact (serve_of_answer honly hjob).symm
    · have unanswered : ∀ b, h.job ≠ .answer b := fun b job => answer ⟨b, job⟩
      have hinside := inside_handle unanswered s c fault
      rw [outline_handle_of_aside only free heedless data unanswered]
      show serve _ (answers es ++ answers (handle s c h fault).2) todo =
        serve _ _ (arrivals (handle s c h fault).2 ++ todo)
      rw [hinside.1, hinside.2, List.append_nil]
      rfl
  | saver => cases aside
  | @publisher b n =>
    rw [outline_afterPublisher hs]
    show serve _ (answers es ++ answers (n.2.map .publisher)) todo =
      serve _ _ (arrivals (n.2.map .publisher) ++ todo)
    rw [(inside_publisher n.2).answers, List.append_nil,
      show arrivals (n.2.map .publisher) = [] from flatMap_map_eq_nil (fun _ => rfl) n.2]
    rfl
  | store => cases aside
  | refuse => cases aside

/-- What does something with offers does it to the prospect. -/
theorem ahead_of_data (hs : Single s) (hmove : Move s a m) (data : touchesOffers s a = true)
    (es : List Event) (todo : List (Caller × Request)) :
    arrivals m.2 = [] ∧ ahead m.1 (es ++ m.2) todo = (ahead s es todo).act a := by
  have hown (own : movesSaver a = true) :
      arrivals m.2 = [] ∧ ahead m.1 (es ++ m.2) todo = (ahead s es todo).act a := by
    obtain ⟨u, n, hafter, hanswers, harrivals, hown⟩ := hmove.own_saver own
    refine ⟨harrivals, ?_⟩
    unfold ahead
    rw [answers_append, hanswers, List.append_nil, hafter]
    exact serve_afterSaver hs hown (answers es) todo
  cases hmove with
  | receive => cases data
  | @handle c h fault found free =>
    obtain ⟨only, heedless⟩ := hs.handler found
    have hdata : h.job.isData = true := by
      simpa [touchesOffers, handling?_of_only only] using data
    have hunanswered : ∀ b, h.job ≠ .answer b := by
      intro b job
      rw [job] at hdata
      cases hdata
    have hinside := inside_handle hunanswered s c fault
    refine ⟨hinside.2, ?_⟩
    have honly : s.outline.handlings = [(c, h)] := by
      rw [outline_of_only only, Handling.settle_of_isData hdata (by rw [free]; nofun)]
    unfold ahead
    rw [answers_append, hinside.1, List.append_nil, serve_of_data honly hdata, Prospect.act,
      step_handle honly free]
    show _ = serve (handle s.outline c h fault).1.outline (answers es) todo
    rw [outline_handle_of_data only free heedless hdata]
  | saver => exact hown rfl
  | publisher => cases data
  | store => exact hown rfl
  | refuse => exact hown rfl

/-- There is never more than one handler while callers wait for each other. -/
theorem Move.single (hmove : Move s a m) (hs : Single s)
    (inTurn : ∀ c r, a = .receive c r → s.handlings = []) : Single m.1 := by
  cases hmove with
  | @receive c r =>
    exact .busy (handlings_receive (inTurn c r rfl) c r) (Api.heedless_jobOf r)
  | @handle c h fault found =>
    obtain ⟨only, heedless⟩ := hs.handler found
    exact single_handle only heedless
  | saver => exact single_afterSaver hs _
  | publisher => exact single_afterPublisher hs _
  | @store why f after fault n u =>
    have hstored : Single { s with store := u } := hs.of_handlings_eq rfl
    exact single_afterSaver hstored _
  | @refuse why f after fault e u =>
    have hrefused : Single { s with store := u } := hs.of_handlings_eq rfl
    exact single_afterSaver hrefused _

/-! ## Runs -/

theorem single_of_path {s₀ : State} (hpath : Path stepInTurn s₀ as es s) (hs : Single s₀) :
    Single s := by
  refine hpath.invariant (P := fun _ _ t => Single t) hs ?_
  intro as es t a u new _ ht hstep
  obtain ⟨hstep', inTurn⟩ := step_of_stepInTurn hstep
  exact (move_cases hstep').single ht inTurn

/-- The prospect at the end of a run is that at its beginning, with what was done with offers done
    to it in the same order. Here `next` is any way to tell what that makes of a prospect. -/
theorem ahead_eq_foldl {s₀ : State} {next : Prospect → Action → Prospect}
    (hpath : Path stepInTurn s₀ as es s) (hs : Single s₀)
    (tells : ∀ a ∈ as, ∀ t es todo, Single t → touchesOffers t a = true →
      next (ahead t es todo) a = (ahead t es todo).act a)
    (before : List Event) (todo : List (Caller × Request)) :
    ahead s (before ++ es) todo = (marked stepInTurn touchesOffers s₀ as).foldl next
      (ahead s₀ before (arrivals es ++ todo)) := by
  induction hpath generalizing todo with
  | refl => rw [List.append_nil]; rfl
  | @tail as es t a u new hbefore hstep ih =>
    have hsingle := single_of_path hbefore hs
    have hahead := ih fun a ha => tells a (List.mem_append_left _ ha)
    obtain ⟨hstep', inTurn⟩ := step_of_stepInTurn hstep
    have hmarked : marked stepInTurn touchesOffers s₀ (as ++ [a]) =
        marked stepInTurn touchesOffers s₀ as ++ if touchesOffers t a then [a] else [] := by
      rw [marked_append hbefore, marked, hstep]
      simp only [marked, List.append_nil]
    rw [hmarked, List.foldl_append, arrivals_append, List.append_assoc, ← List.append_assoc]
    cases hdata : touchesOffers t a with
    | false =>
      rw [ahead_of_aside hsingle (move_cases hstep') inTurn hdata, hahead]
      rfl
    | true =>
      obtain ⟨hnone, hact⟩ := ahead_of_data hsingle (move_cases hstep') hdata (before ++ es) todo
      have hnext := tells a (List.mem_append_right _ List.mem_cons_self) t (before ++ es) todo
        hsingle hdata
      rw [hact, ← hnext, hahead, hnone]
      rfl

/-! ## Calm runs -/

/-- Does the action leave the saver to itself, and does storage not fail in it? -/
def Action.isCalm : Action → Bool
  | .receive .. => true
  | .handle _ fault => fault.isNone
  | .saver _ => false
  | .publisher _ => true
  | .storeBatch _ => false

/-- What becomes of a prospect as its handler turns to offers, and storage does not fail. -/
def Prospect.advance (p : Prospect) : Prospect :=
  match p.state.handlings with
  | (c, _) :: _ => p.act (.handle c none)
  | [] => p

/-- A service that is about to turn to offers stands where its prospect does. -/
theorem ahead_of_only (only : s.handlings = [(c, h)]) (data : h.job.isData = true) (es : List Event)
    (todo : List (Caller × Request)) :
    ahead s es todo = { state := s.outline, answers := answers es, todo } := by
  have honly : s.outline.handlings = [(c, h.settle)] := by rw [outline_of_only only]
  have hsettle : h.settle.job.isData = true := by
    show h.job.still.isData = true
    rw [Api.Job.still_of_isData data]
    exact data
  exact serve_of_data honly hsettle

/-- In a calm run there is but one thing to be done with offers next. -/
theorem advance_ahead (hs : Single s) (calm : a.isCalm = true) (data : touchesOffers s a = true)
    (es : List Event) (todo : List (Caller × Request)) :
    (ahead s es todo).advance = (ahead s es todo).act a := by
  cases a with
  | handle c fault =>
    obtain rfl : fault = none := Option.isNone_iff_eq_none.mp calm
    cases hfound : s.handling? c with
    | none =>
      rw [touchesOffers, hfound] at data
      cases data
    | some h =>
      obtain ⟨only, -⟩ := hs.handler hfound
      have hdata : h.job.isData = true := by
        simpa [touchesOffers, hfound] using data
      have hhandlings : (ahead s es todo).state.handlings = [(c, h.settle)] := by
        rw [ahead_of_only only hdata, outline_of_only only]
      rw [Prospect.advance, hhandlings]
  | saver => cases calm
  | storeBatch => cases calm
  | _ => cases data

end OfferService.Service
