import OfferService.Proofs.Api.Heedless
import OfferService.Proofs.Service.Books
import OfferService.Proofs.Service.Turns

/-
  OfferService.Proofs.Service.Outline

  A service without its publisher. The outline of a state keeps offers, saver and counters, and of
  the handler what is left of its job when all is sent that comes first. Moves of the publisher do
  not change it, nor do those steps of a handler that only send, count or log; all others do to the
  outline what they do to the service.
-/
namespace OfferService.Service

open OfferService.Api (Heedless)
open OfferService.Http (Request Response)

variable {s t u : State} {a : Action} {m : Moved} {c k : Caller} {h : Handling} {r : Request}
  {fault : Option Storage.Error}

/-! ## Outlines -/

/-- The handler when it has sent, counted and logged what comes before its next step with offers. -/
def Handling.settle (h : Handling) : Handling :=
  { h with job := h.job.still, isWaiting := h.isWaiting && h.job.isSave }

/-- The service without its publisher, and with nothing to be sent, counted or logged. -/
def State.outline (s : State) : State :=
  { store := s.store
    saver := s.saver
    publisher := Publisher.new "" 0
    metrics := (s.handlings.foldl (fun n p => p.2.job.tally n) s.metrics).tallied
    handlings := s.handlings.map fun p => (p.1, p.2.settle) }

@[simp] theorem Handling.settle_settle (h : Handling) : h.settle.settle = h.settle := by
  obtain ⟨request, job, isWaiting⟩ := h
  have hwaits : (isWaiting && job.isSave && job.still.isSave) = (isWaiting && job.isSave) := by
    cases job with
    | save => simp [Api.Job.still, Api.Job.isSave]
    | _ => simp [Api.Job.isSave]
  simp only [settle, Api.Job.still_still, hwaits]

@[simp] theorem Handling.tally_settle (h : Handling) (n : Metrics) :
    h.settle.job.tally n = n := Api.Job.tally_still h.job n

/-- A handler that waits for the saver, or has its next step with offers before it, is settled. -/
theorem Handling.settle_of_isData (data : h.job.isData = true)
    (waits : h.isWaiting = true → h.job.isSave = true) : h.settle = h := by
  obtain ⟨request, job, isWaiting⟩ := h
  have hwaits : (isWaiting && job.isSave) = isWaiting := by
    cases isWaiting with
    | false => rfl
    | true => rw [show job.isSave = true from waits rfl]; rfl
  simp only [settle, Api.Job.still_of_isData data, hwaits]

/-- The outline of a service with one handler. -/
theorem outline_of_only (only : s.handlings = [(c, h)]) : s.outline =
    { store := s.store, saver := s.saver, publisher := Publisher.new "" 0
      metrics := (h.job.tally s.metrics).tallied, handlings := [(c, h.settle)] } := by
  rw [State.outline, only]
  rfl

theorem outline_of_idle (idle : s.handlings = []) : s.outline =
    { store := s.store, saver := s.saver, publisher := Publisher.new "" 0
      metrics := s.metrics.tallied } := by
  rw [State.outline, idle]
  rfl

/-- There is one handler or none, and it does not heed the publisher. -/
inductive Single (s : State) : Prop
  | idle (nobody : s.handlings = [])
  | busy {k j} (only : s.handlings = [(k, j)]) (heedless : Heedless j.job)

/-- A handler that moves is the only one. -/
theorem Single.handler (hs : Single s) (found : s.handling? c = some h) :
    s.handlings = [(c, h)] ∧ Heedless h.job := by
  cases hs with
  | idle nobody =>
    rw [State.handling?, nobody] at found
    cases found
  | busy only heedless =>
    have hall := handler_eq only found
    rw [hall.1, hall.2] at only
    rw [hall.2] at heedless
    exact ⟨only, heedless⟩

theorem Single.of_handlings_eq (hs : Single s) (same : t.handlings = s.handlings) : Single t := by
  cases hs with
  | idle nobody => exact .idle (same.trans nobody)
  | busy only heedless => exact .busy (same.trans only) heedless

@[simp] theorem outline_outline (hs : Single s) : s.outline.outline = s.outline := by
  cases hs with
  | idle nobody => rw [outline_of_idle nobody]; rfl
  | busy only =>
    rw [outline_of_only only, outline_of_only rfl]
    simp only [Handling.settle_settle, Handling.tally_settle, Metrics.tallied_tallied]

/-! ## Moves of the saver -/

theorem tallied_countAll (n : Metrics) (es : List Saver.Event) :
    (Saver.countAll n es).tallied = n.tallied := by
  obtain ⟨_, _, hcount⟩ := Saver.flushed_countAll n es
  rw [hcount]
  rfl

/-- Nobody waits for the saver. -/
def Unconcerned (s : State) : Prop :=
  ∀ c h, s.handlings = [(c, h)] → ¬ (h.job.isSave = true ∧ h.isWaiting = true)

/-- If nobody waits for the saver, nothing else changes as it moves. -/
theorem outline_afterSaver_of_unconcerned (hs : Single s) (free : Unconcerned s)
    (n : Saver.Moved) : (afterSaver s n).1.outline = { s.outline with saver := n.1 } := by
  obtain ⟨handlings, hafter, -⟩ := exists_afterSaver s n
  cases hs with
  | idle nobody =>
    rw [outline_of_idle (handlings_afterSaver_of_idle nobody n), outline_of_idle nobody, hafter]
    simp only [tallied_countAll]
  | @busy c h only heedless =>
    have honly : (afterSaver s n).1.handlings = [(c, h)] := by
      rw [handlings_afterSaver only n]
      refine congrArg (fun h' => [(c, h')]) ((Handling.hear_saver c h n.2).resolve_right ?_)
      rintro ⟨o, next, v, job, waits, -⟩
      exact free c h only ⟨by rw [job]; rfl, waits⟩
    rw [outline_of_only honly, outline_of_only only, hafter]
    simp only [heedless.tally_congr (tallied_countAll s.metrics n.2)]

theorem single_afterSaver (hs : Single s) (n : Saver.Moved) : Single (afterSaver s n).1 := by
  cases hs with
  | idle nobody => exact .idle (handlings_afterSaver_of_idle nobody n)
  | busy only heedless =>
    exact .busy (handlings_afterSaver only n) (Handling.hear_keeps Heedless.heeds heedless _)

theorem unconcerned_outline (hs : Single s) (free : Unconcerned s) : Unconcerned s.outline := by
  cases hs with
  | idle nobody =>
    rw [outline_of_idle nobody]
    intro c h only
    cases only
  | @busy c h only =>
    rw [outline_of_only only]
    intro c' h' only' both
    cases only'
    have hboth : h.isWaiting = true ∧ h.job.isSave = true := by
      simpa [Handling.settle] using both.2
    exact free c h only hboth.symm

theorem single_outline (hs : Single s) : Single s.outline := by
  cases hs with
  | idle nobody =>
    rw [outline_of_idle nobody]
    exact .idle rfl
  | busy only heedless =>
    rw [outline_of_only only]
    exact .busy rfl heedless.still

/-- The saver does to the outline what it does to the service. -/
theorem outline_afterSaver (hs : Single s) (n : Saver.Moved) :
    (afterSaver s n).1.outline = (afterSaver s.outline n).1.outline := by
  by_cases free : Unconcerned s
  · rw [outline_afterSaver_of_unconcerned hs free, outline_afterSaver_of_unconcerned
      (single_outline hs) (unconcerned_outline hs free), outline_outline hs]
  · -- The handler waits for the saver, so it is settled.
    cases hs with
    | idle nobody =>
      refine absurd (fun c h only => ?_) free
      rw [nobody] at only
      cases only
    | @busy c h only heedless =>
      have hsave : h.job.isSave = true ∧ h.isWaiting = true := by
        by_contra hnot
        refine free fun c' h' only' => ?_
        rw [only] at only'
        cases only'
        exact hnot
      have hsettled : h.settle = h := Handling.settle_of_isData (Api.Job.isData_of_isSave hsave.1)
        fun _ => hsave.1
      have hmetrics : s.outline.metrics.tallied = s.metrics.tallied := by
        rw [outline_of_only only, Api.Job.tally_of_isData (Api.Job.isData_of_isSave hsave.1)]
        rfl
      have honly' : s.outline.handlings = [(c, h)] := by
        rw [outline_of_only only, hsettled]
      obtain ⟨handlings, hafter, -⟩ := exists_afterSaver s n
      obtain ⟨handlings', hafter', -⟩ := exists_afterSaver s.outline n
      have hcount : (Saver.countAll s.metrics n.2).tallied =
          (Saver.countAll s.outline.metrics n.2).tallied := by
        rw [tallied_countAll, tallied_countAll, hmetrics]
      have hheedless := Handling.hear_keeps (c := c) Heedless.heeds heedless (n.2.map .saver)
      have htally := hheedless.tally_congr hcount
      rw [outline_of_only (handlings_afterSaver only n),
        outline_of_only (handlings_afterSaver honly' n), hafter, hafter']
      exact congrArg (fun x => ({ store := s.store, saver := n.1, publisher := Publisher.new "" 0
                                  metrics := x, handlings := [(c, _)] } : State)) htally

/-! ## Moves of the publisher -/

/-- Whatever the publisher tells, the outline is the same. -/
theorem outline_afterPublisher (hs : Single s) (n : Publisher.Moved) :
    (afterPublisher s n).1.outline = s.outline := by
  obtain ⟨handlings, hafter, -⟩ := exists_afterPublisher s n
  cases hs with
  | idle nobody =>
    rw [outline_of_idle (handlings_afterPublisher_of_idle nobody n), outline_of_idle nobody, hafter]
  | @busy c h only heedless =>
    have honly : (afterPublisher s n).1.handlings = [(c, h.hear c (n.2.map .publisher))] :=
      handlings_afterPublisher only n
    rcases Handling.hear_publisher c h n.2 with hsame | ⟨kind, id, next, v, job, -, htold⟩
    · rw [hsame] at honly
      rw [outline_of_only honly, outline_of_only only, hafter]
    · rw [htold] at honly
      rw [job] at heedless
      cases heedless with
      | publish rest still tally =>
        -- It goes on as if it had been told that all is well.
        have hsettle : Handling.settle { h with job := next v, isWaiting := false } = h.settle := by
          simp only [Handling.settle, job, still v]
          simp [Api.Job.still, Api.Job.isSave]
        rw [outline_of_only honly, outline_of_only only, hafter, hsettle, job]
        simp only [tally v, Api.Job.tally]

theorem single_afterPublisher (hs : Single s) (n : Publisher.Moved) :
    Single (afterPublisher s n).1 := by
  cases hs with
  | idle nobody => exact .idle (handlings_afterPublisher_of_idle nobody n)
  | busy only heedless =>
    exact .busy (handlings_afterPublisher only n) (Handling.hear_keeps Heedless.heeds heedless _)

/-! ## Steps of handlers -/

theorem single_setHandling (only : s.handlings = [(c, h)]) (h' : Handling)
    (heedless : Heedless h'.job) : Single (s.setHandling c h') :=
  .busy (handlings_setHandling only h') heedless

theorem outline_setHandling (only : s.handlings = [(c, h)]) {h' : Handling}
    (settle : h'.settle = h.settle) (tally : h'.job.tally t.metrics = h.job.tally s.metrics)
    (store : t.store = s.store) (saver : t.saver = s.saver) (handlings : t.handlings = s.handlings) :
    (t.setHandling c h').outline = s.outline := by
  rw [outline_of_only (handlings_setHandling (handlings.trans only) h'), outline_of_only only,
    settle]
  show ({ store := t.store, saver := t.saver, publisher := _, metrics := _, handlings := _ } :
    State) = _
  rw [store, saver]
  exact congrArg (fun x : Metrics => ({ store := s.store, saver := s.saver
                                        publisher := Publisher.new "" 0, metrics := x.tallied
                                        handlings := [(c, h.settle)] } : State)) tally

/-- A handler that sends, counts or logs does nothing to the outline. -/
theorem outline_handle_of_aside (only : s.handlings = [(c, h)]) (free : h.isWaiting = false)
    (heedless : Heedless h.job) (data : h.job.isData = false)
    (unanswered : ∀ b, h.job ≠ .answer b) : (handle s c h fault).1.outline = s.outline := by
  obtain ⟨request, job, isWaiting⟩ := h
  cases free
  cases job with
  | answer b => exact absurd rfl (unanswered b)
  | publish kind id next =>
    have hwaits := single_setHandling only
      { request, job := .publish kind id next, isWaiting := true } heedless
    refine (outline_afterPublisher hwaits _).trans ?_
    exact outline_setHandling only rfl rfl rfl rfl rfl
  | count change next =>
    exact outline_setHandling (t := { s with metrics := change s.metrics }) only rfl rfl rfl rfl rfl
  | log es next => exact outline_setHandling (t := s) only rfl rfl rfl rfl rfl
  | _ => cases data

/-- A handler runs a query for the outline as it does for the service. -/
theorem outline_query {α : Type} {q : Storage.Query α} {next : Except Storage.Error α → Api.Job}
    (only : s.handlings = [(c, h)]) (only' : t.handlings = [(c, h)])
    (store : t.store = s.store) (saver : t.saver = s.saver)
    (metrics : t.metrics.tallied = s.metrics.tallied) (log : α → List Log.Entry)
    (rest : ∀ x, Heedless (next x)) :
    (query t c h fault q log next).1.outline = (query s c h fault q log next).1.outline := by
  unfold query
  rw [store]
  rcases (withFault fault q).on s.store with ⟨x, u⟩
  have honly := handlings_setHandling (s := { s with store := u }) only { h with job := next x }
  have honly' := handlings_setHandling (s := { t with store := u }) only' { h with job := next x }
  show (State.setHandling { t with store := u } c _).outline =
    (State.setHandling { s with store := u } c _).outline
  rw [outline_of_only honly, outline_of_only honly']
  show ({ store := u, saver := t.saver, publisher := _, metrics := _, handlings := _ } : State) = _
  rw [saver]
  exact congrArg (fun x : Metrics => ({ store := u, saver := s.saver
                                        publisher := Publisher.new "" 0, metrics := x
                                        handlings := [(c, _)] } : State))
    ((rest x).tally_congr metrics)

/-- A handler does with offers to the outline what it does to the service. -/
theorem outline_handle_of_data (only : s.handlings = [(c, h)]) (free : h.isWaiting = false)
    (heedless : Heedless h.job) (data : h.job.isData = true) :
    (handle s.outline c h fault).1.outline = (handle s c h fault).1.outline := by
  have hsettled : h.settle = h := Handling.settle_of_isData data (by rw [free]; nofun)
  have honly' : s.outline.handlings = [(c, h)] := by
    rw [outline_of_only only, hsettled]
  have hmetrics : s.outline.metrics.tallied = s.metrics.tallied := by
    rw [outline_of_only only, Api.Job.tally_of_isData data]
    rfl
  obtain ⟨request, job, isWaiting⟩ := h
  cases heedless with
  | create rest => exact outline_query only honly' rfl rfl hmetrics _ rest
  | createAll rest => exact outline_query only honly' rfl rfl hmetrics _ rest
  | describe rest => exact outline_query only honly' rfl rfl hmetrics _ rest
  | list rest => exact outline_query only honly' rfl rfl hmetrics _ rest
  | update rest => exact outline_query only honly' rfl rfl hmetrics _ rest
  | remove rest => exact outline_query only honly' rfl rfl hmetrics _ rest
  | @save o next rest =>
    let h' : Handling := { request, job := .save o next, isWaiting := true }
    have hsame : (s.outline.setHandling c h').outline = (s.setHandling c h').outline := by
      rw [outline_of_only (handlings_setHandling honly' h'),
        outline_of_only (handlings_setHandling only h')]
      exact congrArg (fun x : Metrics => ({ store := s.store, saver := s.saver
                                            publisher := Publisher.new "" 0, metrics := x
                                            handlings := [(c, h'.settle)] } : State)) hmetrics
    show (afterSaver (s.outline.setHandling c h') (Saver.save s.saver c o)).1.outline =
      (afterSaver (s.setHandling c h') (Saver.save s.saver c o)).1.outline
    rw [outline_afterSaver (single_setHandling honly' h' (.save rest)), hsame,
      ← outline_afterSaver (single_setHandling only h' (.save rest))]
  | _ => cases data

/-- Whatever storage answers, a job that does not heed the publisher does not heed it. -/
theorem heedless_of_asks {α : Type} {job : Api.Job} {q : Storage.Query α}
    {log : α → List Log.Entry} {next : Except Storage.Error α → Api.Job} (heedless : Heedless job)
    (asks : Asks job q log next) (x : Except Storage.Error α) : Heedless (next x) := by
  cases asks with
  | create => cases heedless with | create rest => exact rest x
  | createAll => cases heedless with | createAll rest => exact rest x
  | describe => cases heedless with | describe rest => exact rest x
  | list => cases heedless with | list rest => exact rest x
  | update => cases heedless with | update rest => exact rest x
  | remove => cases heedless with | remove rest => exact rest x

/-- Whatever a handler does, there is one at most, and it does not heed the publisher. -/
theorem single_handle (only : s.handlings = [(c, h)]) (heedless : Heedless h.job) :
    Single (handle s c h fault).1 := by
  have hwaits := single_setHandling only { h with isWaiting := true } heedless
  generalize hm : handle s c h fault = m
  cases handle_cases hm with
  | answer => exact .idle (handlings_endHandling only)
  | @stored α q log next x u asks =>
    exact single_setHandling (s := { s with store := u }) only _ (heedless_of_asks heedless asks _)
  | @failed α q log next e u asks =>
    exact single_setHandling (s := { s with store := u }) only _ (heedless_of_asks heedless asks _)
  | save => exact single_afterSaver hwaits _
  | publish => exact single_afterPublisher hwaits _
  | @count change next job =>
    rw [job] at heedless
    cases heedless with
    | count _ rest =>
      exact single_setHandling (s := { s with metrics := change s.metrics }) only _ rest
  | log job =>
    rw [job] at heedless
    cases heedless with
    | log rest => exact single_setHandling only _ rest

/-! ## Arrivals -/

/-- A request arrives in the outline as it does in the service. -/
theorem outline_receive (nobody : s.handlings = []) (c : Caller) (r : Request) :
    (receive s.outline c r).1.outline = (receive s c r).1.outline := by
  have hnobody : s.outline.handlings = [] := by rw [outline_of_idle nobody]
  rw [outline_of_only (handlings_receive nobody c r), outline_of_only (handlings_receive hnobody c r)]
  have hcount : s.outline.metrics.onRequest.tallied = s.metrics.onRequest.tallied := by
    rw [outline_of_idle nobody]
    rfl
  exact congrArg (fun x : Metrics => ({ store := s.store, saver := s.saver
                                        publisher := Publisher.new "" 0, metrics := x
                                        handlings := [(c, _)] } : State))
    ((Api.heedless_jobOf r).tally_congr hcount)

end OfferService.Service
