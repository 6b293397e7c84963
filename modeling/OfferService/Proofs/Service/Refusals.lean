import OfferService.Proofs.Api.Buffering
import OfferService.Proofs.Service.Bulk
import OfferService.Proofs.Service.Seats

/-
  OfferService.Proofs.Service.Refusals

  Requests that are refused. Until a handler is sure to succeed, what it does leaves rows, counters
  and events alone; so a request that is not answered with success has left them alone from its
  arrival to its answer, whatever others did in between. Only requests to buffer offers reach the
  saver before that, and of those the saver has taken the first offers of the list, up to the one
  that was declined.
-/
namespace OfferService.Service

open OfferService.Api (Buffered Buffers Careful InOrder Posts Succeeds)
open OfferService.Http (Request Response)
open OfferService.Saver (pushes verdicts)
open OfferService.Storage (Store)

variable {s t u v : State} {c k : Caller} {h h' : Handling} {a : Action} {m : Moved}
  {as : List Action} {es new : List Event} {r : Request} {b : Response} {may : Prop}
  {fault : Option Storage.Error}

/-! ## What one step of a handler does -/

/-- What requests leave behind is the same: the stored offers, the counters, and the publisher with
    its queue. -/
structure Spared (s t : State) : Prop where
  store : t.store = s.store
  metrics : t.metrics = s.metrics
  publisher : t.publisher = s.publisher

/-- What is left to do for a caller is careful. -/
def IsCareful (may : Prop) (c : Caller) (s : State) : Prop :=
  ∃ h, s.handling? c = some h ∧ Careful may h.job

/-- The request of a caller is sure to succeed. -/
def IsSure (c : Caller) (s : State) : Prop := ∃ h, s.handling? c = some h ∧ Succeeds h.job

/-- The step of a handler has left everything alone, but for what it may hand to the saver, and the
    handler is careful still unless it has answered. -/
structure Harmless (may : Prop) (c : Caller) (s : State) (m : Moved) : Prop where
  spared : Spared s m.1
  saver : ¬ may → m.1.saver = s.saver
  careful : IsCareful may c m.1 ∨ ∃ r b, .answered c r b ∈ m.2

/-- A query of a handler has changed nothing, or the handler is sure to succeed. -/
theorem query_spares {α : Type} {q : Storage.Query α} {next : Except Storage.Error α → Api.Job}
    (found : s.handling? c = some h) (atomic : q.Atomic) (log : α → List Log.Entry)
    (done : ∀ a u, q.on s.store = (.ok a, u) →
      Succeeds (next (.ok a)) ∨ u = s.store ∧ Careful may (next (.ok a)))
    (failed : ∀ e, Careful may (next (.error e))) :
    IsSure c (query s c h fault q log next).1 ∨
      Harmless may c s (query s c h fault q log next) := by
  rcases hon : (withFault fault q).on s.store with ⟨x, u⟩
  have hafter : (query s c h fault q log next).1 =
      { s with store := u }.setHandling c { h with job := next x } := by
    unfold query
    rw [hon]
  have hjob : (query s c h fault q log next).1.handling? c = some { h with job := next x } := by
    rw [hafter]
    exact handling?_setHandling (s := { s with store := u }) found _
  have hharmless (hstore : u = s.store) (careful : Careful may (next x)) :
      Harmless may c s (query s c h fault q log next) := by
    refine ⟨?_, fun _ => ?_, Or.inl ⟨_, hjob, careful⟩⟩
    · rw [hafter]
      exact ⟨hstore, rfl, rfl⟩
    · rw [hafter]
      rfl
  cases x with
  | ok a =>
    rcases done a u (withFault_eq_ok hon).2 with sure | ⟨hstore, careful⟩
    · exact Or.inl ⟨_, hjob, sure⟩
    · exact Or.inr (hharmless hstore careful)
  | error e => exact Or.inr (hharmless ((withFault_atomic atomic fault).eq_of_on hon) (failed e))

/-- A call to save changes no counter. -/
theorem countAll_save (metrics : Metrics) (saver : Saver.State) (c : Caller) (o : Offer) :
    Saver.countAll metrics (Saver.save saver c o).2 = metrics := by
  have hcases := Saver.save_cases saver c o
  generalize Saver.save saver c o = m at hcases ⊢
  cases hcases <;> rfl

/-- A careful handler leaves everything alone, but for what it may hand to the saver, until it is
    sure to succeed. -/
theorem handle_spares (found : s.handling? c = some h) (careful : Careful may h.job)
    (fault : Option Storage.Error) :
    IsSure c (handle s c h fault).1 ∨ Harmless may c s (handle s c h fault) := by
  obtain ⟨request, job, isWaiting⟩ := h
  cases careful with
  | answer =>
    exact Or.inr ⟨⟨rfl, rfl, rfl⟩, fun _ => rfl, Or.inr ⟨_, _, List.mem_cons_self⟩⟩
  | create stored failed =>
    exact query_spares found (Store.insert_atomic _) _ (fun a _ _ => Or.inl (stored a)) failed
  | createAll stored failed =>
    exact query_spares found (Store.createAll_atomic _) _ (fun a _ _ => Or.inl (stored a)) failed
  | @describe id next rest =>
    have hreads := Store.describe_reads id
    exact query_spares found hreads.atomic _
      (fun a u hon => Or.inr ⟨hreads.eq_of_on hon, rest _⟩) fun e => rest _
  | @list w next rest =>
    have hreads := Store.list_reads w
    exact query_spares found hreads.atomic _
      (fun a u hon => Or.inr ⟨hreads.eq_of_on hon, rest _⟩) fun e => rest _
  | update stored failed =>
    exact query_spares found (Store.update_atomic _) _ (fun _ _ _ => Or.inl stored) failed
  | remove stored failed =>
    exact query_spares found (Store.remove_atomic _) _ (fun _ _ _ => Or.inl stored) failed
  | @save o next allowed rest =>
    have hwaits := handling?_setHandling found { request, job := .save o next, isWaiting := true }
    obtain ⟨hs, hafter, -⟩ := exists_afterSaver
      (s.setHandling c { request, job := .save o next, isWaiting := true })
      (Saver.save s.saver c o)
    refine Or.inr ⟨?_, fun hnot => absurd allowed hnot, Or.inl ⟨_,
      (handling?_afterSaver _ c _).trans (by rw [hwaits]; rfl), ?_⟩⟩
    · show Spared s (afterSaver _ _).1
      rw [hafter]
      exact ⟨rfl, countAll_save _ _ _ _, rfl⟩
    · exact Handling.hear_keeps (Careful.heeds may) (Careful.save allowed rest) _
  | @log es next rest =>
    exact Or.inr ⟨⟨rfl, rfl, rfl⟩, fun _ => rfl,
      Or.inl ⟨_, handling?_setHandling found { request, job := next, isWaiting }, rest⟩⟩

/-! ## Answers -/

/-- Only a handler whose job is over answers its request. -/
theorem answered_of_handle (hmem : .answered c r b ∈ (handle s k h fault).2) :
    k = c ∧ h.request = r ∧ ∃ x, h.job = .answer x ∧ b = Api.sent r x := by
  generalize hm : handle s k h fault = m at hmem
  cases handle_cases hm with
  | @answer x job =>
    cases List.mem_singleton.mp hmem
    exact ⟨rfl, rfl, x, job, rfl⟩
  | save => simp [afterSaver] at hmem
  | publish => simp [afterPublisher] at hmem
  | _ => simp at hmem

theorem Move.of_answered (hmove : Move s a m) (hmem : .answered c r b ∈ m.2) :
    ∃ h fault x, a = .handle c fault ∧ s.handling? c = some h ∧ h.request = r ∧
      h.job = .answer x ∧ b = Api.sent r x ∧ m = Service.handle s c h fault := by
  cases hmove with
  | receive => simp [Service.receive] at hmem
  | @handle k h fault found =>
    obtain ⟨rfl, request, x, job, hb⟩ := answered_of_handle hmem
    exact ⟨h, fault, x, rfl, found, request, job, hb, rfl⟩
  | saver => simp [afterSaver] at hmem
  | publisher => simp [afterPublisher] at hmem
  | store => simp [afterSaver] at hmem
  | refuse => simp [afterSaver] at hmem

theorem Move.answered_of_answer {x : Response} (hmove : Move s (.handle c fault) m)
    (found : s.handling? c = some h) (job : h.job = .answer x) :
    .answered c h.request (Api.sent h.request x) ∈ m.2 := by
  cases hmove with
  | handle found' =>
    rw [found] at found'
    cases found'
    unfold Service.handle
    rw [job]
    exact List.mem_cons_self

theorem Move.handling?_of_log {log : List Log.Entry} {next : Api.Job}
    (hmove : Move s (.handle c fault) m) (found : s.handling? c = some h)
    (job : h.job = .log log next) : m.1.handling? c = some { h with job := next } := by
  cases hmove with
  | handle found' =>
    rw [found] at found'
    cases found'
    unfold Service.handle
    rw [job]
    exact handling?_setHandling found _

/-! ## Handlers that are sure to succeed -/

/-- Who is sure to succeed stays so until it is answered. -/
theorem IsSure.move (hsure : IsSure c s) (hmove : Move s a m)
    (unanswered : ∀ r b, .answered c r b ∉ m.2) : IsSure c m.1 := by
  obtain ⟨h, found, succeeds⟩ := hsure
  by_cases hown : ∃ fault, a = .handle c fault
  · obtain ⟨fault, rfl⟩ := hown
    cases hmove with
    | @handle _ h' _ found' =>
      rw [found] at found'
      cases found'
      obtain ⟨request, job, isWaiting⟩ := h
      cases succeeds with
      | answer => exact absurd List.mem_cons_self (unanswered request _)
      | @publish kind id next rest =>
        have hwaits := handling?_setHandling found
          { request, job := .publish kind id next, isWaiting := true }
        refine ⟨_, (handling?_afterPublisher _ c _).trans (by rw [hwaits]; rfl), ?_⟩
        exact Handling.hear_keeps Succeeds.heeds (Succeeds.publish rest) _
      | @count change next rest =>
        exact ⟨_, handling?_setHandling (s := { s with metrics := change s.metrics }) found
          { request, job := next, isWaiting }, rest⟩
      | @log es next rest =>
        exact ⟨_, handling?_setHandling found { request, job := next, isWaiting }, rest⟩
  · have hothers : ∀ fault, a ≠ .handle c fault := fun fault ha => hown ⟨fault, ha⟩
    exact ⟨_, hmove.handling?_eq found hothers, Handling.hear_keeps Succeeds.heeds succeeds _⟩

theorem IsSure.of_path (hsure : IsSure c s) (hpath : Path step s as es t)
    (unanswered : ∀ r b, .answered c r b ∉ es) : IsSure c t := by
  induction hpath with
  | refl => exact hsure
  | tail _ hstep ih =>
    refine (ih fun r b hmem => unanswered r b (List.mem_append_left _ hmem)).move
      (move_cases hstep) fun r b hmem => unanswered r b (List.mem_append_right _ hmem)

/-- An answer is sent with the status that it has. -/
theorem isSuccess_sent (r : Request) (x : Response) : (Api.sent r x).isSuccess = x.isSuccess := by
  rw [Response.isSuccess, Response.isSuccess, Api.status_sent]

theorem IsSure.isSuccess (hsure : IsSure c s) (hmove : Move s a m)
    (hmem : .answered c r b ∈ m.2) : b.isSuccess = true := by
  obtain ⟨h, found, succeeds⟩ := hsure
  obtain ⟨h', fault, x, rfl, found', rfl, job, rfl, -⟩ := hmove.of_answered hmem
  rw [found] at found'
  cases found'
  rw [job] at succeeds
  cases succeeds with
  | answer thanked => rw [isSuccess_sent, thanked]

/-- A careful handler stays so, or becomes sure to succeed, until it answers. -/
theorem IsCareful.move (hcareful : IsCareful may c s) (hmove : Move s a m)
    (unanswered : ∀ r b, .answered c r b ∉ m.2) : IsCareful may c m.1 ∨ IsSure c m.1 := by
  obtain ⟨h, found, careful⟩ := hcareful
  by_cases hown : ∃ fault, a = .handle c fault
  · obtain ⟨fault, rfl⟩ := hown
    cases hmove with
    | handle found' =>
      rw [found] at found'
      cases found'
      rcases handle_spares found careful fault with sure | harmless
      · exact Or.inr sure
      · refine Or.inl (harmless.careful.resolve_right ?_)
        rintro ⟨r, b, hmem⟩
        exact unanswered r b hmem
  · have hothers : ∀ fault, a ≠ .handle c fault := fun fault ha => hown ⟨fault, ha⟩
    exact Or.inl ⟨_, hmove.handling?_eq found hothers,
      Handling.hear_keeps (Careful.heeds may) careful _⟩

/-! ## From the arrival of a request to its answer -/

theorem IsCareful.of_path (hcareful : IsCareful may c s) (hpath : Path step s as es t)
    (unanswered : ∀ r b, .answered c r b ∉ es) : IsCareful may c t ∨ IsSure c t := by
  induction hpath with
  | refl => exact Or.inl hcareful
  | @tail as es t a u new _ hstep ih =>
    have hnow : ∀ r b, .answered c r b ∉ new := fun r b hmem =>
      unanswered r b (List.mem_append_right _ hmem)
    rcases ih fun r b hmem => unanswered r b (List.mem_append_left _ hmem) with careful | sure
    · exact careful.move (move_cases hstep) hnow
    · exact Or.inr (sure.move (move_cases hstep) hnow)

/-- If its request is not answered with success, no step of a careful handler has done harm. -/
theorem IsCareful.harmless {as₁ as₂ : List Action} {es₁ es₂ : List Event} {w : State}
    (hcareful : IsCareful may c s) (hbefore : Path step s as₁ es₁ v)
    (hstep : step v (.handle c fault) = some (w, new)) (hafter : Path step w as₂ es₂ t)
    (unanswered : ∀ r b, .answered c r b ∉ es₁ ++ new ++ es₂) (hmove : Move t a m)
    (hmem : .answered c r b ∈ m.2) (failed : b.isSuccess = false) :
    Harmless may c v (w, new) := by
  have hnot₁ : ∀ r b, .answered c r b ∉ es₁ := fun r b hmem => unanswered r b (by simp [hmem])
  have hnew : ∀ r b, .answered c r b ∉ new := fun r b hmem => unanswered r b (by simp [hmem])
  have hnot₂ : ∀ r b, .answered c r b ∉ es₂ := fun r b hmem => unanswered r b (by simp [hmem])
  -- A handler that has become sure to succeed would have succeeded in the end.
  have hunsure : ¬ IsSure c w := by
    intro sure
    rw [(sure.of_path hafter hnot₂).isSuccess hmove hmem] at failed
    cases failed
  have hcase := move_cases hstep
  generalize hmoved : (w, new) = n at hcase
  cases hcase with
  | @handle _ h _ found =>
    have hsame : (handle v c h fault).1 = w := by rw [← hmoved]
    have hcareful' : IsCareful may c v := by
      refine (hcareful.of_path hbefore hnot₁).resolve_right fun sure => hunsure ?_
      exact sure.move (move_cases hstep) hnew
    obtain ⟨h', found', careful⟩ := hcareful'
    rw [found] at found'
    cases found'
    exact (handle_spares found careful fault).resolve_left (hsame ▸ hunsure)

/-! ## Offers handed to the saver -/

/-- The request `r` of a caller, to buffer the offers `os`, is being handled; `es` has happened since
    it arrived. -/
structure Serving (c : Caller) (r : Request) (os : List Offer) (es : List Event) (s : State)
    (h : Handling) (pushed taken : List Offer) (declined : Option SaverError) : Prop where
  found : s.handling? c = some h
  request : h.request = r
  waits : h.isWaiting = true → ∃ o next, h.job = .save o next
  seat : Seat c s pushed
  buffers : Buffers os taken declined h.job
  /-- The saver has taken the first offers of the list, and nothing else of this caller. -/
  pushes : entries c (pushes (saverEvents es)) = taken ++ pushed
  /-- The caller was told so of each, and of the one that was declined. -/
  verdicts : entries c (verdicts (saverEvents es)) =
    List.replicate taken.length (.ok ()) ++ declined.toList.map .error

/-- Only who saves waits. -/
theorem Serving.free {os pushed taken : List Offer} {declined : Option SaverError}
    (hs : Serving c r os es s h pushed taken declined) (none : ∀ o next, h.job ≠ .save o next) :
    h.isWaiting = false := by
  apply Bool.eq_false_iff.mpr
  intro waits
  obtain ⟨o, next, job⟩ := hs.waits waits
  exact none o next job

/-- What the saver has taken of a request, and what its caller was told, after more events. -/
theorem Serving.after {os pushed taken : List Offer} {declined : Option SaverError}
    (hs : Serving c r os es s h pushed taken declined) (new : List Event) :
    entries c (Saver.pushes (saverEvents (es ++ new))) =
        taken ++ (pushed ++ entries c (Saver.pushes (saverEvents new))) ∧
      entries c (Saver.verdicts (saverEvents (es ++ new))) =
        List.replicate taken.length (.ok ()) ++ declined.toList.map .error ++
          entries c (Saver.verdicts (saverEvents new)) := by
  constructor
  · rw [saverEvents_append, Saver.pushes_append, entries_append, hs.pushes, List.append_assoc]
  · rw [saverEvents_append, Saver.verdicts_append, entries_append, hs.verdicts]

/-- While no call returns the handler stays where it is, or has logged something. -/
theorem Serving.still {os pushed pushed' taken : List Offer} {declined : Option SaverError}
    (hs : Serving c r os es s h pushed taken declined) (hmove : Move s a m)
    (unanswered : ∀ r b, .answered c r b ∉ m.2) (seat : Seat c m.1 pushed')
    (silent : entries c (Saver.verdicts (saverEvents m.2)) = [])
    (more : pushed' = pushed ++ entries c (Saver.pushes (saverEvents m.2)))
    (same : ∀ h o next, s.handling? c = some h → h.job = .save o next →
      ∃ isWaiting, m.1.handling? c = some { h with isWaiting }) :
    ∃ h', Serving c r os (es ++ m.2) m.1 h' pushed' taken declined := by
  obtain ⟨hpushes, hverdicts⟩ := hs.after m.2
  rw [silent, List.append_nil] at hverdicts
  rw [← more] at hpushes
  have hbuffers := hs.buffers
  rcases hbuffers.cases with ⟨o, next, job⟩ | ⟨log, next, job⟩ | ⟨x, job⟩
  · obtain ⟨isWaiting, found⟩ := same h o next hs.found job
    exact ⟨_, found, hs.request, fun _ => ⟨o, next, job⟩, seat, hbuffers, hpushes, hverdicts⟩
  · have free : h.isWaiting = false := hs.free fun o next job' => by rw [job] at job'; cases job'
    by_cases hown : ∃ fault, a = .handle c fault
    · obtain ⟨fault, rfl⟩ := hown
      rw [job] at hbuffers
      refine ⟨_, hmove.handling?_of_log hs.found job, hs.request, ?_, seat, hbuffers.said, hpushes,
        hverdicts⟩
      intro waits
      rw [free] at waits
      cases waits
    · have hfound := hmove.handling?_of_free hs.found free fun fault ha => hown ⟨fault, ha⟩
      exact ⟨_, hfound, hs.request, hs.waits, seat, hbuffers, hpushes, hverdicts⟩
  · have free : h.isWaiting = false := hs.free fun o next job' => by rw [job] at job'; cases job'
    have hothers : ∀ fault, a ≠ .handle c fault := by
      rintro fault rfl
      exact unanswered _ _ (hmove.answered_of_answer hs.found job)
    have hfound := hmove.handling?_of_free hs.found free hothers
    exact ⟨_, hfound, hs.request, hs.waits, seat, hbuffers, hpushes, hverdicts⟩

/-- When the call returns the handler goes on with the next offer, or refuses the request. -/
theorem Serving.told {os pushed taken : List Offer} {declined : Option SaverError} {o : Offer}
    {next : Saver.Verdict → Api.Job} {v : Saver.Verdict}
    (hs : Serving c r os es s h pushed taken declined) (job : h.job = .save o next)
    (seat : Seat c m.1 [])
    (heard : m.1.handling? c = some { h with job := next v, isWaiting := false })
    (verdict : entries c (Saver.verdicts (saverEvents m.2)) = [v])
    (visit : Saver.Visit o (pushed ++ entries c (Saver.pushes (saverEvents m.2))) [v] .empty) :
    ∃ h' taken' declined', Serving c r os (es ++ m.2) m.1 h' [] taken' declined' := by
  obtain ⟨hpushes, hverdicts⟩ := hs.after m.2
  have hbuffers := hs.buffers
  rw [job] at hbuffers
  obtain ⟨rfl, htaken, hdeclined⟩ := hbuffers.told
  rw [verdict] at hverdicts
  generalize pushed ++ entries c (Saver.pushes (saverEvents m.2)) = all at hpushes visit
  cases visit with
  | thanked =>
    refine ⟨_, taken ++ [o], none, heard, hs.request, nofun, seat, htaken, ?_, ?_⟩
    · rw [hpushes, List.append_nil]
    · rw [hverdicts, List.length_append, List.replicate_add]
      simp
  | @rejected e why =>
    refine ⟨_, taken, some e, heard, hs.request, nofun, seat, hdeclined e why, hpushes, ?_⟩
    rw [hverdicts]
    simp

theorem Serving.move {os pushed taken : List Offer} {declined : Option SaverError}
    (hs : Serving c r os es s h pushed taken declined) (coherent : s.saver.Coherent)
    (sound : s.saver.desk.Sound) (hmove : Move s a m) (unanswered : ∀ r b, .answered c r b ∉ m.2) :
    ∃ h' pushed' taken' declined',
      Serving c r os (es ++ m.2) m.1 h' pushed' taken' declined' := by
  obtain ⟨pushed', hseat, houtcome⟩ := hs.seat.step hmove coherent sound
  cases houtcome with
  | still silent more same =>
    obtain ⟨h', hs'⟩ := hs.still hmove unanswered hseat silent more same
    exact ⟨h', _, _, _, hs'⟩
  | told found job heard verdict visit spent =>
    rw [hs.found] at found
    cases found
    rw [spent] at hseat
    obtain ⟨h', taken', declined', hs'⟩ := hs.told job hseat heard verdict visit
    exact ⟨h', _, _, _, hs'⟩

/-! ## Actions of others -/

/-- The counters of requests and of what they have done. -/
def served (n : Metrics) : List UInt64 := [n.requests, n.created, n.updated, n.removed]

/-- What the saver does is counted elsewhere. -/
theorem served_countAll (n : Metrics) (es : List Saver.Event) :
    served (Saver.countAll n es) = served n := by
  obtain ⟨_, _, hcount⟩ := Saver.flushed_countAll n es
  rw [hcount]
  rfl

/-- Where no handler moves, rows change only as a batch of the saver is stored, requests are counted
    only as they arrive, and the publisher and the saver change only by moves of their own. -/
structure Quiet (s : State) (a : Action) (t : State) : Prop where
  store : (∀ fault, a ≠ .storeBatch fault) → t.store = s.store
  counters : (∀ k r, a ≠ .receive k r) → served t.metrics = served s.metrics
  publisher : (∀ b, a ≠ .publisher b) → t.publisher = s.publisher
  saver : (∀ b, a ≠ .saver b) → (∀ fault, a ≠ .storeBatch fault) → t.saver = s.saver

theorem Move.quiet (hmove : Move s a m) (others : ∀ k fault, a ≠ .handle k fault) :
    Quiet s a m.1 := by
  cases hmove with
  | @receive k r => exact ⟨fun _ => rfl, fun h => absurd rfl (h k r), fun _ => rfl, fun _ _ => rfl⟩
  | @handle k h fault => exact absurd rfl (others k fault)
  | @saver b n own move =>
    obtain ⟨hs, hafter, -⟩ := exists_afterSaver s n
    rw [hafter]
    exact ⟨fun _ => rfl, fun _ => served_countAll _ _, fun _ => rfl, fun h _ => absurd rfl (h b)⟩
  | @publisher b n own move =>
    obtain ⟨hs, hafter, -⟩ := exists_afterPublisher s n
    rw [hafter]
    exact ⟨fun _ => rfl, fun _ => rfl, fun h => absurd rfl (h b), fun _ _ => rfl⟩
  | @store why f after fault n u' m' =>
    obtain ⟨hs, hafter, -⟩ := exists_afterSaver { s with store := u' } m'
    rw [hafter]
    exact ⟨fun h => absurd rfl (h fault), fun _ => served_countAll _ _, fun _ => rfl,
      fun _ h => absurd rfl (h fault)⟩
  | @refuse why f after fault e u' m' =>
    obtain ⟨hs, hafter, -⟩ := exists_afterSaver { s with store := u' } m'
    rw [hafter]
    exact ⟨fun h => absurd rfl (h fault), fun _ => served_countAll _ _, fun _ => rfl,
      fun _ h => absurd rfl (h fault)⟩

/-! ## Whole runs -/

section

variable {capacity groups : Nat} {ticker : Ticker} {s₀ s₁ : State} {as₀ : List Action}
  {es₀ new₁ : List Event} {os pushed taken : List Offer} {declined : Option SaverError}

theorem Serving.of_path (hnew : Saver.new capacity groups ticker = .ok s₀.saver)
    (hrun : Path step s₀ as₀ es₀ s) (hs : Serving c r os [] s h pushed taken declined)
    (hpath : Path step s as es t) (unanswered : ∀ r b, .answered c r b ∉ es) :
    ∃ h' pushed' taken' declined', Serving c r os es t h' pushed' taken' declined' := by
  induction hpath with
  | refl => exact ⟨_, _, _, _, hs⟩
  | @tail as es t a u new hpath hstep ih =>
    obtain ⟨h', pushed', taken', declined', hs'⟩ :=
      ih fun r b hmem => unanswered r b (List.mem_append_left _ hmem)
    obtain ⟨coherent, sound⟩ := saver_of_path hnew (hrun.trans hpath)
    exact hs'.move coherent sound (move_cases hstep) fun r b hmem =>
      unanswered r b (List.mem_append_right _ hmem)

/-- What no step for a caller changes, nor any action of others, has not changed if nobody else's
    request was handled. -/
theorem eq_of_alone {β : Type} {f : State → β} (hpath : Path step s as es t)
    (alone : ∀ k fault, .handle k fault ∈ as → k = c)
    (own : ∀ before fault after es' v w new, as = before ++ .handle c fault :: after →
      Path step s before es' v → step v (.handle c fault) = some (w, new) → f w = f v)
    (others : ∀ a ∈ as, ∀ v w, Quiet v a w → f w = f v) : f t = f s := by
  refine hpath.eq_of_forall ?_
  intro before a after es' v w new has hbefore hstep
  have hmem : a ∈ as := by simp [has]
  by_cases hhandle : ∃ k fault, a = .handle k fault
  · obtain ⟨k, fault, rfl⟩ := hhandle
    rw [alone k fault hmem] at has hstep
    exact own before fault after es' v w new has hbefore hstep
  · have hquiet := (move_cases hstep).quiet fun k fault ha => hhandle ⟨k, fault, ha⟩
    exact others a hmem v w hquiet

/-- What has come of the offers `os` of a request that was answered with `b`, after `es`. -/
structure Handed (c : Caller) (os : List Offer) (es : List Event) (b : Response)
    (taken : List Offer) (declined : Option SaverError) : Prop where
  /-- The saver has taken the first offers of the list, up to the one that was declined, and the
      answer says so. -/
  outcome : Buffered os taken declined b
  pushes : entries c (pushes (saverEvents es)) = taken
  verdicts : entries c (verdicts (saverEvents es)) =
    List.replicate taken.length (.ok ()) ++ declined.toList.map .error
  thanked : b.status = 202 ↔ taken = os
  status : ∀ e, declined = some e → (∃ n, e = .capacityReached n) ∧ b.status = 429 ∨
    (e = .closed ∨ e = .notInitialized) ∧ b.status = 503

/-- What has come of a request `r` that arrived in `s`, which led to `s₁`, and was answered with `b`
    in `t`, which led to `u`; in between, `as` was done and `es` happened. -/
structure Treated (s : State) (c : Caller) (r : Request) (s₁ : State) (as : List Action)
    (es : List Event) (t u : State) (b : Response) : Prop where
  /-- On its arrival the request is counted, and that is all. -/
  arrival : s₁ = { s with metrics := s.metrics.onRequest, handlings := s₁.handlings }
  /-- If it is not answered with success, no step of its handler has changed anything, but for what
      was handed to the saver of a list that is in order. -/
  steps : b.isSuccess = false → ∀ before fault after es' v w new,
    as = before ++ .handle c fault :: after → Path step s₁ before es' v →
      step v (.handle c fault) = some (w, new) →
        Spared v w ∧ (¬ (Posts .buffered r ∧ InOrder r) → w.saver = v.saver)
  answer : Spared t u ∧ u.saver = t.saver
  /-- So if no other request was handled in between, then rows have changed only if the saver had a
      batch stored, and nothing else has changed but by moves of the saver and the publisher. -/
  alone : b.isSuccess = false → (∀ k fault, .handle k fault ∈ as → k = c) →
    ((∀ fault, .storeBatch fault ∉ as) → u.store = s.store) ∧
    ((∀ k r, .receive k r ∉ as) → served u.metrics = served s.metrics.onRequest) ∧
    ((∀ a, .publisher a ∉ as) → u.publisher = s.publisher) ∧
    (¬ (Posts .buffered r ∧ InOrder r) → (∀ a, .saver a ∉ as) → (∀ fault, .storeBatch fault ∉ as) →
      u.saver = s.saver)
  /-- Of a list to buffer the saver has taken the first offers, and was handed no others. -/
  buffered : Posts .buffered r → ∀ fs, Api.offerList r = .ok fs →
    ∃ taken declined, Handed c (fs.map (·.toOffer 0)) es b taken declined
  later : ∀ bs fs w, Path step u bs fs w → (∀ r, .receive c r ∉ bs) →
    entries c (pushes (saverEvents fs)) = []

/-- A caller that is not heard of hands nothing to the saver. -/
theorem pushes_of_unknown (hnew : Saver.new capacity groups ticker = .ok s₀.saver)
    (fresh : s₀.handlings = []) (hrun : Path step s₀ as₀ es₀ s) (unknown : s.handling? c = none)
    (hpath : Path step s as es t) (silent : ∀ r, .receive c r ∉ as) :
    t.handling? c = none ∧ entries c (pushes (saverEvents es)) = [] := by
  induction hpath with
  | refl => exact ⟨unknown, rfl⟩
  | @tail as es t a u new hpath hstep ih =>
    obtain ⟨hnone, hpushes⟩ := ih fun r hmem => silent r (List.mem_append_left _ hmem)
    have hmove := move_cases hstep
    have hunknown := hmove.handling?_eq_none hnone fun r ha => silent r (by simp [ha])
    obtain ⟨pushed, hseat⟩ := exists_seat hnew fresh (hrun.trans hpath) c
    obtain ⟨coherent, sound⟩ := saver_of_path hnew (hrun.trans hpath)
    obtain ⟨hslot, rfl⟩ := hseat.of_fresh hnone
    refine ⟨hunknown, ?_⟩
    rw [saverEvents_append, Saver.pushes_append, entries_append, hpushes]
    obtain ⟨pushed', hseat', houtcome⟩ := hseat.step hmove coherent sound
    obtain ⟨-, rfl⟩ := hseat'.of_fresh hunknown
    cases houtcome with
    | still _ more => exact more.symm
    | told found =>
      rw [hnone] at found
      cases found

/-- The handler of a request that has just arrived. -/
theorem serving_of_receive {fs : List Api.OfferFields}
    (hnew : Saver.new capacity groups ticker = .ok s₀.saver) (fresh : s₀.handlings = [])
    (hrun : Path step s₀ as₀ es₀ s) (unknown : s.handling? c = none) (post : Posts .buffered r)
    (hlist : Api.offerList r = .ok fs) :
    Serving c r (fs.map (·.toOffer 0)) [] (receive s c r).1 { request := r, job := Api.jobOf r } []
      [] none := by
  obtain ⟨pushed, hseat⟩ := exists_seat hnew fresh hrun c
  have found := handling?_receive unknown r
  refine ⟨found, rfl, nofun, .away (hseat.of_fresh unknown).1 ?_, Buffers.jobOf post hlist, rfl,
    rfl⟩
  intro h' found' waits
  rw [found] at found'
  cases found'
  cases waits

/-- What the offers of a request have come to when it is answered. -/
theorem Serving.handed {x : Response} (hs : Serving c r os es t h pushed taken declined)
    (job : h.job = .answer x) : Handed c os es x taken declined := by
  have hbuffers := hs.buffers
  rw [job] at hbuffers
  have houtcome := hbuffers.answered
  have hpushed : pushed = [] := by
    cases hs.seat with
    | away => rfl
    | underway found job' =>
      rw [hs.found] at found
      cases found
      rw [job] at job'
      cases job'
  refine ⟨houtcome, ?_, hs.verdicts, houtcome.status_eq_iff, ?_⟩
  · rw [hs.pushes, hpushed, List.append_nil]
  · rintro e rfl
    cases houtcome with
    | some split why => exact Api.status_of_declines why

/-- If the steps for a caller have changed nothing, and nobody else's request was handled, then what
    has changed was changed by the saver, by the publisher, or by other requests as they arrived. -/
theorem alone_of_steps {may : Prop} (hpath : Path step s as es t)
    (alone : ∀ k fault, .handle k fault ∈ as → k = c)
    (steps : ∀ before fault after es' v w new, as = before ++ .handle c fault :: after →
      Path step s before es' v → step v (.handle c fault) = some (w, new) →
        Spared v w ∧ (¬ may → w.saver = v.saver)) :
    ((∀ fault, .storeBatch fault ∉ as) → t.store = s.store) ∧
    ((∀ k r, .receive k r ∉ as) → served t.metrics = served s.metrics) ∧
    ((∀ a, .publisher a ∉ as) → t.publisher = s.publisher) ∧
    (¬ may → (∀ a, .saver a ∉ as) → (∀ fault, .storeBatch fault ∉ as) → t.saver = s.saver) := by
  have hkept {β : Type} {f : State → β} (own : ∀ v w, Spared v w → f w = f v)
      (others : ∀ a ∈ as, ∀ v w, Quiet v a w → f w = f v) : f t = f s := by
    refine eq_of_alone hpath alone ?_ others
    intro before fault after es' v w new has hbefore hstep
    exact own v w (steps before fault after es' v w new has hbefore hstep).1
  refine ⟨?_, ?_, ?_, ?_⟩
  · intro hstore
    refine hkept (f := State.store) (fun v w hs => hs.store) fun a hmem v w hq => ?_
    exact hq.store fun fault ha => hstore fault (ha ▸ hmem)
  · intro hreceive
    refine hkept (f := fun s => served s.metrics) (fun v w hs => by rw [hs.metrics])
      fun a hmem v w hq => ?_
    exact hq.counters fun k r ha => hreceive k r (ha ▸ hmem)
  · intro hpublisher
    refine hkept (f := State.publisher) (fun v w hs => hs.publisher) fun a hmem v w hq => ?_
    exact hq.publisher fun b ha => hpublisher b (ha ▸ hmem)
  · intro hnot hsaver hstore
    refine eq_of_alone (f := State.saver) hpath alone ?_ fun a hmem v w hq => ?_
    · intro before fault after es' v w new has hbefore hstep
      exact (steps before fault after es' v w new has hbefore hstep).2 hnot
    · exact hq.saver (fun b ha => hsaver b (ha ▸ hmem)) fun fault ha => hstore fault (ha ▸ hmem)

/-- Take any service, whatever it handles and whoever moves when. No step that is taken for a request
    which is not answered with success changes a row, the next id, a counter of offers or the queue
    of events, and the request is counted once. The saver is left alone as well, but by requests to
    buffer a list that is in order: of such a list it takes the first offers, in order, up to one
    that it declines, and the answer says so. What the saver has taken it may store before the
    request is answered, and that is the only way in which rows change meanwhile. -/
theorem refused_requests_change_nothing (hnew : Saver.new capacity groups ticker = .ok s₀.saver)
    (fresh : s₀.handlings = []) (hrun : Path step s₀ as₀ es₀ s)
    (arrive : step s (.receive c r) = some (s₁, new₁)) (hpath : Path step s₁ as es t)
    (unanswered : ∀ r b, .answered c r b ∉ es) (hend : step t a = some (u, new))
    (hanswer : .answered c r b ∈ new) : Treated s c r s₁ as es t u b := by
  have hreceive := move_cases arrive
  generalize hmoved : (s₁, new₁) = m at hreceive
  cases hreceive with
  | receive unknown =>
    cases hmoved
    have hmove := move_cases hend
    obtain ⟨h, fault, x, rfl, found, request, job, rfl, hm⟩ := hmove.of_answered hanswer
    have hu : u = t.endHandling c := by
      have hhandle : (handle t c h fault).1 = t.endHandling c := by
        unfold handle
        rw [job]
      rw [← hhandle, ← hm]
    have hspared : Spared t u ∧ u.saver = t.saver := by
      rw [hu]
      exact ⟨⟨rfl, rfl, rfl⟩, rfl⟩
    have hcareful : IsCareful (Posts .buffered r ∧ InOrder r) c (receive s c r).1 :=
      ⟨_, handling?_receive unknown r, Api.careful_jobOf r⟩
    have hsteps : (Api.sent r x).isSuccess = false → ∀ before fault after es' v w new,
        as = before ++ .handle c fault :: after → Path step (receive s c r).1 before es' v →
          step v (.handle c fault) = some (w, new) →
            Spared v w ∧ (¬ (Posts .buffered r ∧ InOrder r) → w.saver = v.saver) := by
      rintro failed before fault after es' v w new' rfl hbefore hstep
      obtain ⟨es₁, v', now, w', es₂, hbefore', hstep', hafter, rfl⟩ := hpath.split
      obtain ⟨rfl, rfl⟩ := hbefore.unique hbefore'
      rw [hstep] at hstep'
      cases hstep'
      have hharmless := hcareful.harmless hbefore hstep hafter unanswered hmove hanswer failed
      exact ⟨hharmless.spared, hharmless.saver⟩
    refine ⟨rfl, hsteps, hspared, ?_, ?_, ?_⟩
    · intro failed alone
      obtain ⟨store, counters, publisher, saver⟩ := alone_of_steps hpath alone (hsteps failed)
      refine ⟨fun h => hspared.1.store.trans (store h), fun h => ?_,
        fun h => hspared.1.publisher.trans (publisher h),
        fun hnot hsaver hstore => hspared.2.trans (saver hnot hsaver hstore)⟩
      rw [hspared.1.metrics]
      exact counters h
    · intro post fs hlist
      have hserving := serving_of_receive hnew fresh hrun unknown post hlist
      obtain ⟨h', pushed, taken, declined, hs⟩ :=
        hserving.of_path hnew (hrun.tail arrive) hpath unanswered
      have hsame := hs.found
      rw [found] at hsame
      cases hsame
      have hsent : Api.sent r x = x := if_neg (by rw [post.1]; nofun)
      rw [hsent]
      exact ⟨taken, declined, hs.handed job⟩
    · intro bs fs w honward silent
      have hgone : u.handling? c = none := by
        rw [hu]
        exact handling?_endHandling t c
      have hall := ((hrun.tail arrive).trans hpath).tail hend
      exact (pushes_of_unknown hnew fresh hall hgone honward silent).2

end

theorem exists_answered (h : (r, b) ∈ answers es) : ∃ c, .answered c r b ∈ es := by
  obtain ⟨e, he, hmem⟩ := List.mem_flatMap.mp h
  cases e with
  | answered c r' b' =>
    cases List.mem_singleton.mp hmem
    exact ⟨c, he⟩
  | received => cases hmem
  | saver => cases hmem
  | publisher => cases hmem
  | logged => cases hmem

theorem mem_answers (h : .answered c r b ∈ es) : (r, b) ∈ answers es :=
  List.mem_flatMap.mpr ⟨_, h, List.mem_singleton.mpr rfl⟩

/-- Of three offers that are handed to a saver with room for one, the first is stored, the second
    stays with the saver as storage fails, and the third is declined. -/
theorem exists_refused_run :
    ∃ (s₀ s s₁ t u : State) (as₀ as : List Action) (es₀ new₁ es new : List Event) (r : Request)
      (b : Response) (fs : List Api.OfferFields),
      Saver.new 1 1 { period := .millis 1000 } = .ok s₀.saver ∧ s₀.handlings = [] ∧
      Path step s₀ as₀ es₀ s ∧ s.handlings = [] ∧ step s (.receive 0 r) = some (s₁, new₁) ∧
      Path step s₁ as es t ∧ (∀ k r, .receive k r ∉ as) ∧ (∀ r b, .answered 0 r b ∉ es) ∧
      step t (.handle 0 none) = some (u, new) ∧ .answered 0 r b ∈ new ∧ b.status = 429 ∧
      Posts .buffered r ∧ Api.offerList r = .ok fs ∧ fs.length = 3 ∧ u.store ≠ s.store := by
  let saver : Saver.State := { capacity := 1, groups := 1, ticker := { period := .millis 1000 } }
  let s₀ : State := { saver, publisher := Publisher.new "offers" 4 }
  let one := "\x7b\"user_id\":1,\"team_id\":1,\"grade\":1\x7d"
  let r : Request :=
    { method := .post, target := { path := "/v1/offers/buffered" }
      headers := [("content-type", "application/json")]
      body := ("\x7b\"offers\":[" ++ one ++ "," ++ one ++ "," ++ one ++ "]\x7d").toUTF8.toList }
  let given : List Action := [.handle 0 none, .saver .loop]
  let as : List Action := given ++ [.storeBatch none, .saver (.collect 0)] ++
    given ++ [.storeBatch (some .zeroPageSize), .saver (.collect 0)] ++
    given ++ [.saver (.collect 0), .handle 0 none, .handle 0 none]
  let b := (Api.Error.saver (.capacityReached 1)).response
  let f : Api.OfferFields := { userId := 1, teamId := 1, grade := 1 }
  have hend : (((follow step s₀ [.saver .init]).bind fun m₀ =>
      (step m₀.1 (.receive 0 r)).bind fun m₁ =>
      (follow step m₁.1 as).bind fun m =>
      (step m.1 (.handle 0 none)).map fun n =>
        (m₀.1.handlings.isEmpty, answers m.2, answers n.2, decide (n.1.store = m₀.1.store)))) =
      some (true, [], [(r, b)], false) := by
    decide +kernel
  obtain ⟨⟨s, es₀⟩, hinit, hend⟩ := Option.bind_eq_some_iff.mp hend
  obtain ⟨⟨s₁, new₁⟩, harrive, hend⟩ := Option.bind_eq_some_iff.mp hend
  obtain ⟨⟨t, es⟩, hfollow, hend⟩ := Option.bind_eq_some_iff.mp hend
  obtain ⟨⟨u, new⟩, hstep, hend⟩ := Option.map_eq_some_iff.mp hend
  simp only [Prod.mk.injEq, List.isEmpty_iff, decide_eq_false_iff_not] at hend
  obtain ⟨quiet, unanswered, answered, hstore⟩ := hend
  have hanswer : (r, b) ∈ answers new := by
    rw [answered]
    exact List.mem_cons_self
  obtain ⟨c, hmem⟩ := exists_answered hanswer
  obtain ⟨_, _, _, ha, -⟩ := (move_cases hstep).of_answered hmem
  cases ha
  refine ⟨s₀, s, s₁, t, u, [.saver .init], as, es₀, new₁, es, new, r, b, [f, f, f], rfl, rfl,
    path_of_follow hinit, quiet, harrive, path_of_follow hfollow, ?_, ?_, hstep, hmem, rfl,
    by decide +kernel, by decide +kernel, rfl, hstore⟩
  · intro k r' hreceive
    simp [as, given] at hreceive
  · intro r' b' hanswered
    have hmem' := mem_answers hanswered
    rw [unanswered] at hmem'
    cases hmem'

/-- Not all three offers of that list were taken, and the saver took no others. -/
theorem refused_requests_change_nothing_full_saver :
    ∃ s c r s₁ as es t u b os taken declined, Treated s c r s₁ as es t u b ∧ b.status = 429 ∧
      os.length = 3 ∧ taken ≠ os ∧ Handed c os es b taken declined := by
  obtain ⟨s₀, s, s₁, t, u, as₀, as, es₀, new₁, es, new, r, b, fs, hnew, fresh, hrun, -, arrive,
    hpath, -, unanswered, hend, hanswer, hstatus, post, hlist, hlength, -⟩ := exists_refused_run
  have htreated := refused_requests_change_nothing hnew fresh hrun arrive hpath unanswered hend
    hanswer
  obtain ⟨taken, declined, handed⟩ := htreated.buffered post fs hlist
  refine ⟨s, 0, r, s₁, as, es, t, u, b, fs.map (·.toOffer 0), taken, declined, htreated, hstatus,
    by rw [List.length_map, hlength], ?_, handed⟩
  intro all
  rw [handed.thanked.mpr all] at hstatus
  cases hstatus

/-- Rows may change while a request is handled that is refused in the end, and no other. -/
theorem not_every_refused_request_leaves_rows :
    ¬ ∀ capacity groups ticker s₀ as₀ es₀ s c r s₁ new₁ as es t a u new b,
      Saver.new capacity groups ticker = .ok s₀.saver → s₀.handlings = [] →
      Path step s₀ as₀ es₀ s → s.handlings = [] → step s (.receive c r) = some (s₁, new₁) →
      Path step s₁ as es t → (∀ k r, .receive k r ∉ as) → (∀ r b, .answered c r b ∉ es) →
      step t a = some (u, new) → .answered c r b ∈ new → b.isSuccess = false →
      u.store = s.store := by
  intro hall
  obtain ⟨s₀, s, s₁, t, u, as₀, as, es₀, new₁, es, new, r, b, fs, hnew, fresh, hrun, quiet, arrive,
    hpath, only, unanswered, hend, hanswer, hstatus, -, -, -, hstore⟩ := exists_refused_run
  refine hstore (hall _ _ _ s₀ as₀ es₀ s 0 r s₁ new₁ as es t _ u new b hnew fresh hrun quiet arrive
    hpath only unanswered hend hanswer ?_)
  rw [Response.isSuccess, hstatus]
  rfl

end OfferService.Service
