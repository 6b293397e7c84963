import Mathlib.Data.List.Infix
import OfferService.Proofs.Api.Blame
import OfferService.Proofs.Saver.Replies
import OfferService.Proofs.Service.Refusals

/-
  OfferService.Proofs.Service.Faults

  Server errors. A handler comes to one only by way of storage or the saver: the pool of connections
  is closed, there are too few ids left for what it is about to create, or the saver was asked to
  close or was never initialized. Whatever a client sends to a service that is in good health is
  answered with a status below 500, whoever else is served meanwhile.
-/
namespace OfferService.Service

open OfferService.Api (Avoids Unlike)
open OfferService.Http (Request Response)
open OfferService.Storage (Operation Query maxColumn)

variable {n capacity groups : Nat} {ticker : Ticker} {s₀ s s₁ t u : State} {c : Caller}
  {h : Handling} {a : Action} {m : Moved} {as₀ as : List Action} {es₀ new₁ es new : List Event}
  {r : Request} {b : Response}

/-! ## Health -/

/-- What is wrong with a service that it answers a caller with the status. -/
inductive Fault (c : Caller) (s : State) : Nat → Prop
  | pool (closed : s.store.access = .closed) : Fault c s 500
  /-- There are too few ids left for what the handler is about to create. -/
  | ids {h : Handling} (found : s.handling? c = some h)
      (short : maxColumn < s.store.table.issued + h.job.needs) : Fault c s 500
  | closing (asked : s.saver.shutdown = true) : Fault c s 503
  | fresh (created : s.saver.lifecycle = .created) : Fault c s 503

/-- The pool is open, there are ids for what the handler of the caller is about to create, and the
    saver is initialized and was not asked to close. -/
structure Healthy (c : Caller) (s : State) : Prop where
  pool : s.store.access ≠ .closed
  room : ∀ h, s.handling? c = some h → s.store.table.issued + h.job.needs ≤ maxColumn
  initialized : s.saver.lifecycle = .initialized
  unasked : s.saver.shutdown = false

instance (c : Caller) (s : State) : Decidable (Healthy c s) :=
  decidable_of_iff (s.store.access ≠ .closed ∧
      (∀ h ∈ s.handling? c, s.store.table.issued + h.job.needs ≤ maxColumn) ∧
      s.saver.lifecycle = .initialized ∧ s.saver.shutdown = false)
    ⟨fun ⟨pool, room, initialized, unasked⟩ => ⟨pool, room, initialized, unasked⟩,
      fun ⟨pool, room, initialized, unasked⟩ => ⟨pool, room, initialized, unasked⟩⟩

/-- Nothing is wrong with a service in good health. -/
theorem Healthy.no_fault (healthy : Healthy c s) : ¬ Fault c s n := by
  intro fault
  cases fault with
  | pool closed => exact healthy.pool closed
  | ids found short =>
    have hroom := healthy.room _ found
    omega
  | closing asked =>
    rw [healthy.unasked] at asked
    cases asked
  | fresh created =>
    rw [healthy.initialized] at created
    cases created

/-! ## Storage -/

/-- What a handler asks storage for is a call. -/
theorem Asks.exists_operation {job : Api.Job} {α : Type} {q : Query α} {log : α → List Log.Entry}
    {next : Except Storage.Error α → Api.Job} (asks : Asks job q log next) :
    ∃ (op : Operation) (g : α → Storage.Answer), op.query = g <$> q ∧ op.isCall = true ∧
      op.needs = job.needs := by
  cases asks with
  | @create o => exact ⟨.create o, _, rfl, rfl, rfl⟩
  | @createAll os => exact ⟨.createAll os, _, rfl, rfl, rfl⟩
  | @describe id => exact ⟨.describe id, _, rfl, rfl, rfl⟩
  | @list w => exact ⟨.list w, _, rfl, rfl, rfl⟩
  | @update o => exact ⟨.update o, _, rfl, rfl, rfl⟩
  | @remove id => exact ⟨.remove id, _, rfl, rfl, rfl⟩

/-- What is left to do avoids the status, whatever storage has said but for errors of it. -/
theorem Asks.avoids {job : Api.Job} {α : Type} {q : Query α} {log : α → List Log.Entry}
    {next : Except Storage.Error α → Api.Job} (asks : Asks job q log next) (avoids : Avoids n job)
    (x : Except Storage.Error α) (unlike : Unlike n x) : Avoids n (next x) := by
  cases asks with
  | create => cases avoids with | create rest => exact rest x unlike
  | createAll => cases avoids with | createAll rest => exact rest x unlike
  | describe => cases avoids with | describe rest => exact rest x unlike
  | list => cases avoids with | list rest => exact rest x unlike
  | update => cases avoids with | update rest => exact rest x unlike
  | remove => cases avoids with | remove rest => exact rest x unlike

/-- Storage fails through nobody's fault who asked only if the pool is closed or ids are short. -/
theorem fault_of_failed {α : Type} {q : Query α} {log : α → List Log.Entry}
    {next : Except Storage.Error α → Api.Job} {e : Storage.Error} {store : Storage.Store}
    (prepared : s.store.access ≠ .unprepared) (found : s.handling? c = some h)
    (asks : Asks h.job q log next) (failed : q.on s.store = (.error e, store))
    (server : 500 ≤ (Api.Error.storage e).status) :
    Fault c s (Api.Error.storage e).status := by
  obtain ⟨hstatus, hnot⟩ := Api.Error.status_storage server
  rw [hstatus]
  by_cases closed : s.store.access = .closed
  · exact .pool closed
  · have ready : s.store.access = .ready := by
      cases haccess : s.store.access with
      | ready => rfl
      | closed => exact absurd haccess closed
      | unprepared => exact absurd haccess prepared
    -- With ids enough the call would have failed through the fault of who has asked.
    refine .ids found (Nat.lt_of_not_le fun room => ?_)
    obtain ⟨op, g, hquery, call, hneeds⟩ := asks.exists_operation
    have hanswer : op.answer s.store = .error e := by
      rw [Operation.answer, hquery, Query.map_answer, failed]
      rfl
    rw [Operation.blames ready (hneeds ▸ room) call hanswer] at hnot
    cases hnot

/-! ## The saver -/

/-- The saver refuses a caller with a server error only if it was asked to close, or is fresh. -/
theorem fault_of_refused {e : SaverError} (hmove : Move s a m) (candid : s.saver.Candid capacity)
    (behind : Saver.Behind s.saver.door s.saver.loop)
    (told : .saver (.returned c (.error e)) ∈ m.2)
    (server : 500 ≤ (Api.Error.saver e).status) : Fault c s (Api.Error.saver e).status := by
  have hmem : .returned c (.error e) ∈ saverEvents m.2 :=
    List.mem_flatMap.mpr ⟨_, told, List.mem_singleton.mpr rfl⟩
  rcases hmove.ofSaver with ⟨b, hstep⟩ | ⟨-, hnone⟩
  · rcases Saver.error_of_returned candid behind hstep hmem with
      rfl | ⟨rfl, asked⟩ | ⟨rfl, created⟩
    · exact absurd server (by show ¬ 500 ≤ 429; decide)
    · exact .closing asked
    · exact .fresh created
  · rw [hnone] at hmem
    cases hmem

/-! ## Handlers -/

/-- The handler of a caller is on its way to an answer with another status, unless something goes
    wrong. -/
def IsOnCourse (n : Nat) (c : Caller) (s : State) : Prop :=
  ∃ h, s.handling? c = some h ∧ Avoids n h.job

/-- A handler goes on as verdicts make it, and avoids the status if none of them has it. -/
theorem avoids_hear (avoids : Avoids n h.job)
    (unlike : ∀ e, .saver (.returned c (.error e)) ∈ es → (Api.Error.saver e).status ≠ n) :
    Avoids n (h.hear c es).job := by
  refine Handling.hear_keeps_of (fun hsave v hmem => ?_) (fun hpublish v => ?_) avoids
  · cases hsave with
    | save taken refused =>
      rcases v with e | ⟨⟩
      · exact refused e (unlike e hmem)
      · exact taken
  · cases hpublish with
    | publish rest => exact rest v

/-- A handler stays on its way by its own steps. -/
theorem IsOnCourse.handle (server : 500 ≤ n) (found : s.handling? c = some h)
    (avoids : Avoids n h.job) (prepared : s.store.access ≠ .unprepared)
    (hm : handle s c h none = m)
    (unlike : ∀ e, .saver (.returned c (.error e)) ∈ m.2 → (Api.Error.saver e).status ≠ n)
    (unanswered : ∀ r b, .answered c r b ∉ m.2) : IsOnCourse n c m.1 ∨ Fault c s n := by
  have hwaits := handling?_setHandling found { h with isWaiting := true }
  have hwaiting : Avoids n { h with isWaiting := true }.job := avoids
  cases handle_cases hm with
  | answer => exact absurd List.mem_cons_self (unanswered _ _)
  | @stored _ q log next x u asks result =>
    exact Or.inl ⟨_, handling?_setHandling (s := { s with store := u }) found _,
      asks.avoids avoids _ nofun⟩
  | @failed _ q log next e u asks result =>
    by_cases hstatus : (Api.Error.storage e).status = n
    · subst hstatus
      exact Or.inr (fault_of_failed prepared found asks result server)
    · refine Or.inl ⟨_, handling?_setHandling (s := { s with store := u }) found _,
        asks.avoids avoids _ ?_⟩
      rintro e' he
      cases he
      exact hstatus
  | save =>
    exact Or.inl ⟨_, (handling?_afterSaver _ c _).trans (by rw [hwaits]; rfl),
      avoids_hear hwaiting unlike⟩
  | publish =>
    exact Or.inl ⟨_, (handling?_afterPublisher _ c _).trans (by rw [hwaits]; rfl),
      avoids_hear hwaiting unlike⟩
  | @count change next job =>
    rw [job] at avoids
    cases avoids with
    | count rest =>
      exact Or.inl ⟨_, handling?_setHandling (s := { s with metrics := change s.metrics }) found _,
        rest⟩
  | @log es next job =>
    rw [job] at avoids
    cases avoids with
    | log rest => exact Or.inl ⟨_, handling?_setHandling found _, rest⟩

/-- A handler stays on its way in every move of anybody, or something is wrong with the service. -/
theorem IsOnCourse.move (server : 500 ≤ n) (hcourse : IsOnCourse n c s) (hmove : Move s a m)
    (prepared : s.store.access ≠ .unprepared) (candid : s.saver.Candid capacity)
    (behind : Saver.Behind s.saver.door s.saver.loop) (faultless : ∀ e, a ≠ .handle c (some e))
    (unanswered : ∀ r b, .answered c r b ∉ m.2) : IsOnCourse n c m.1 ∨ Fault c s n := by
  by_cases hrefused : ∃ e, .saver (.returned c (.error e)) ∈ m.2 ∧ (Api.Error.saver e).status = n
  · -- Another caller's step may make the saver refuse this one, so all moves are looked at.
    obtain ⟨e, told, rfl⟩ := hrefused
    exact Or.inr (fault_of_refused hmove candid behind told server)
  · have hunlike : ∀ e, .saver (.returned c (.error e)) ∈ m.2 → (Api.Error.saver e).status ≠ n :=
      fun e told same => hrefused ⟨e, told, same⟩
    obtain ⟨h, found, avoids⟩ := hcourse
    by_cases hown : ∃ fault, a = .handle c fault
    · obtain ⟨fault, rfl⟩ := hown
      have hnone : fault = none := Option.eq_none_iff_forall_ne_some.mpr fun e he =>
        faultless e (by rw [he])
      subst hnone
      cases hmove with
      | handle found' =>
        rw [found] at found'
        cases found'
        exact IsOnCourse.handle server found avoids prepared rfl hunlike unanswered
    · have hothers : ∀ fault, a ≠ .handle c fault := fun fault ha => hown ⟨fault, ha⟩
      exact Or.inl ⟨_, hmove.handling?_eq found hothers, avoids_hear avoids hunlike⟩

/-! ## From the arrival of a request to its answer -/

/-- In a state on the path something was wrong that is answered with the status. -/
def Suffers (n : Nat) (c : Caller) (s : State) (as : List Action) : Prop :=
  ∃ before later es v, as = before ++ later ∧ Path step s before es v ∧ Fault c v n

theorem IsOnCourse.of_path (server : 500 ≤ n)
    (hnew : Saver.new capacity groups ticker = .ok s₀.saver) (hrun : Path step s₀ as₀ es₀ s)
    (prepared : s.store.access ≠ .unprepared) (hcourse : IsOnCourse n c s)
    (hpath : Path step s as es t) (faultless : ∀ e, .handle c (some e) ∉ as)
    (unanswered : ∀ r b, .answered c r b ∉ es) : IsOnCourse n c t ∨ Suffers n c s as := by
  induction hpath with
  | refl => exact Or.inl hcourse
  | @tail as es t a u new hpath hstep ih =>
    rcases ih (fun e hmem => faultless e (List.mem_append_left _ hmem))
      (fun r b hmem => unanswered r b (List.mem_append_left _ hmem)) with hnow | hsuffers
    · have hprepared : t.store.access ≠ .unprepared := by
        rw [(onward_of_path hpath).access]
        exact prepared
      obtain ⟨bs, hsaver⟩ := exists_saver_run (hrun.trans hpath)
      rcases hnow.move server (move_cases hstep) hprepared (Saver.candid_of_path hsaver hnew)
        (Saver.behind_of_path hsaver hnew) (fun e ha => faultless e (by simp [ha]))
        (fun r b hmem => unanswered r b (List.mem_append_right _ hmem)) with hnext | hfault
      · exact Or.inl hnext
      · exact Or.inr ⟨as, [a], es, t, rfl, hpath, hfault⟩
    · obtain ⟨before, later, es', v, rfl, hbefore, hfault⟩ := hsuffers
      exact Or.inr ⟨before, later ++ [a], es', v, List.append_assoc _ _ _, hbefore, hfault⟩

/-- Take any service that was prepared, whatever it handles and whoever moves when, and any request
    to it. If it is answered with a server error, then something was wrong with the service at a
    moment between the arrival of the request and its answer: with 500 if the pool was closed or there
    were too few ids for what was to be created, and with 503 if the saver was asked to close or was
    never initialized. So if the service is in good health all the while, the status is below 500. -/
theorem server_errors_are_faults (hnew : Saver.new capacity groups ticker = .ok s₀.saver)
    (hrun : Path step s₀ as₀ es₀ s) (prepared : s.store.access ≠ .unprepared)
    (arrive : step s (.receive c r) = some (s₁, new₁)) (hpath : Path step s₁ as es t)
    (unanswered : ∀ r b, .answered c r b ∉ es) (hend : step t a = some (u, new))
    (hanswer : .answered c r b ∈ new) (faultless : ∀ e, .handle c (some e) ∉ as) :
    (500 ≤ b.status → Suffers b.status c s₁ as) ∧
      ((∀ before later es' v, as = before ++ later → Path step s₁ before es' v → Healthy c v) →
        b.status < 500) := by
  have hsuffers : 500 ≤ b.status → Suffers b.status c s₁ as := by
    intro server
    have hreceive := move_cases arrive
    have hprepared : s₁.store.access ≠ .unprepared := by
      rw [hreceive.onward.access]
      exact prepared
    have hcourse : IsOnCourse b.status c s₁ := by
      generalize hmoved : (s₁, new₁) = m at hreceive
      cases hreceive with
      | receive unknown =>
        cases hmoved
        exact ⟨_, handling?_receive unknown r, Api.avoids_jobOf server r⟩
    refine (hcourse.of_path server hnew (hrun.tail arrive) hprepared hpath faultless
      unanswered).resolve_left ?_
    -- Whoever is on its way to another status does not answer with this one.
    rintro ⟨h, found, avoids⟩
    obtain ⟨h', fault, x, rfl, found', rfl, job, rfl, -⟩ := (move_cases hend).of_answered hanswer
    rw [found] at found'
    cases found'
    rw [job] at avoids
    cases avoids with
    | answer other => exact other (Api.status_sent _ _).symm
  refine ⟨hsuffers, fun healthy => Nat.lt_of_not_le fun server => ?_⟩
  obtain ⟨before, later, es', v, has, hbefore, hfault⟩ := hsuffers server
  exact (healthy before later es' v has hbefore).no_fault hfault

/-- A run in which one request is served alone, as far as the steps of a service compute it. -/
theorem exists_run_of_follow (s₀ : State) (as₀ : List Action) (c : Caller) (r : Request)
    (as : List Action) (b : Response) (health : Bool)
    (h : ((follow step s₀ as₀).bind fun m₀ => (step m₀.1 (.receive c r)).bind fun m₁ =>
        (follow step m₁.1 as).bind fun m => (step m.1 (.handle c none)).map fun n =>
          (decide (m₀.1.store.access = .ready), answers m.2, answers n.2,
            as.inits.all fun before => (follow step m₁.1 before).all (Healthy c ·.1))) =
      some (true, [], [(r, b)], health)) :
    ∃ es₀ s new₁ s₁ es t new u, Path step s₀ as₀ es₀ s ∧ s.store.access = .ready ∧
      step s (.receive c r) = some (s₁, new₁) ∧ Path step s₁ as es t ∧
      (∀ r b, .answered c r b ∉ es) ∧ step t (.handle c none) = some (u, new) ∧
      .answered c r b ∈ new ∧ (health = true → ∀ before later es' v, as = before ++ later →
        Path step s₁ before es' v → Healthy c v) := by
  obtain ⟨⟨s, es₀⟩, hrun, h⟩ := Option.bind_eq_some_iff.mp h
  obtain ⟨⟨s₁, new₁⟩, harrive, h⟩ := Option.bind_eq_some_iff.mp h
  obtain ⟨⟨t, es⟩, hpath, h⟩ := Option.bind_eq_some_iff.mp h
  obtain ⟨⟨u, new⟩, hend, h⟩ := Option.map_eq_some_iff.mp h
  simp only [Prod.mk.injEq, decide_eq_true_eq] at h
  obtain ⟨ready, unanswered, answered, hhealth⟩ := h
  have hanswer : (r, b) ∈ answers new := by
    rw [answered]
    exact List.mem_cons_self
  obtain ⟨k, hmem⟩ := exists_answered hanswer
  obtain ⟨_, _, _, hsame, -⟩ := (move_cases hend).of_answered hmem
  cases hsame
  refine ⟨es₀, s, new₁, s₁, es, t, new, u, path_of_follow hrun, ready, harrive,
    path_of_follow hpath, ?_, hend, hmem, ?_⟩
  · intro r' b' hanswered
    have hmem' := mem_answers hanswered
    rw [unanswered] at hmem'
    cases hmem'
  · intro hall before later es' v has hbefore
    have hprefix : before ∈ as.inits := (List.mem_inits before as).mpr ⟨later, has.symm⟩
    rw [hall, List.all_eq_true] at hhealth
    have hhealthy := hhealth before hprefix
    rw [follow_of_path hbefore] at hhealthy
    exact of_decide_eq_true hhealthy

/-- An offer is sent to a saver that was never initialized, and answered with 503. A service in good
    health is sent an offer with a number that no column can hold, and answers with 400. -/
theorem server_errors_are_faults_fresh_saver_and_big_grade :
    (∃ c s as, Suffers 503 c s as) ∧ ∃ c s r s₁ new₁ as es t, step s (.receive c r) = some (s₁, new₁) ∧
      Path step s₁ as es t ∧ (∃ u new b, step t (.handle c none) = some (u, new) ∧
        .answered c r b ∈ new ∧ b.status = 400 ∧ b.status < 500) := by
  let saver : Saver.State := { capacity := 1, groups := 1, ticker := { period := .millis 1000 } }
  let s₀ : State := { saver, publisher := Publisher.new "offers" 4 }
  have hnew : Saver.new 1 1 { period := .millis 1000 } = .ok s₀.saver := rfl
  let one := "\x7b\"user_id\":1,\"team_id\":1,\"grade\":9223372036854775808\x7d"
  let post (path : String) (body : String) : Request :=
    { method := .post, target := { path }, headers := [("content-type", "application/json")]
      body := body.toUTF8.toList }
  refine ⟨?_, ?_⟩
  · let r := post "/v1/offers/buffered" ("\x7b\"offers\":[" ++ one ++ "]\x7d")
    let as : List Action := [.handle 0 none, .handle 0 none, .handle 0 none]
    let b := (Api.Error.saver .notInitialized).response
    obtain ⟨es₀, s, new₁, s₁, es, t, new, u, hrun, ready, arrive, hpath, unanswered, hend, hanswer,
      -⟩ := exists_run_of_follow s₀ [] 0 r as b false (by decide +kernel)
    have hsuffers := (server_errors_are_faults hnew hrun (by rw [ready]; nofun) arrive hpath
      unanswered hend hanswer (by simp [as])).1
    exact ⟨0, s₁, as, hsuffers (by decide)⟩
  · let r := post "/v1/offers" one
    let as : List Action := [.handle 0 none, .handle 0 none]
    let b := (Api.Error.storage (.valueOutOfRange 9223372036854775808)).response
    obtain ⟨es₀, s, new₁, s₁, es, t, new, u, hrun, ready, arrive, hpath, unanswered, hend, hanswer,
      healthy⟩ := exists_run_of_follow s₀ [.saver .init] 0 r as b true (by decide +kernel)
    have hstatus := (server_errors_are_faults hnew hrun (by rw [ready]; nofun) arrive hpath
      unanswered hend hanswer (by simp [as])).2 (healthy rfl)
    exact ⟨0, s, r, s₁, new₁, as, es, t, arrive, hpath, u, new, b, hend, hanswer, rfl, hstatus⟩

end OfferService.Service
