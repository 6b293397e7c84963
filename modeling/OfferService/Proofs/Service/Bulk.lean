import OfferService.Proofs.Api.Bulk
import OfferService.Proofs.Service.Books
import OfferService.Proofs.Storage.Onward

/-
  OfferService.Proofs.Service.Bulk

  How a service answers requests to create several offers. The handler of such a request keeps what
  was promised of its job when the request arrived, however others move in between; only storage has
  to be fair to it, and a store in good order is. Both kinds of requests are refused alike, except
  for numbers that no column can hold: those are refused only where storage is asked at once.
-/
namespace OfferService.Service

open OfferService.Api (Alike Ends InOrder OutOfRange Posts)
open OfferService.Http (Request Response)
open OfferService.Storage (Storable Store)

variable {s₀ s t u : State} {as : List Action} {es new : List Event} {a : Action} {c : Caller}
  {h : Handling} {fault : Option Storage.Error}

/-! ## The store of a service -/

/-- A query that storage may fail leads no further than the query itself. -/
theorem withFault_onward {α : Type} {q : Storage.Query α} (atomic : q.Atomic) (store : Store)
    (ok : ∀ a u, q.on store = (.ok a, u) → Store.Onward store u) (fault : Option Storage.Error) :
    Store.Onward store ((withFault fault q).on store).2 :=
  (withFault_atomic atomic fault).onward store fun a u hon => ok a u (withFault_eq_ok hon).2

theorem query_onward {α : Type} {q : Storage.Query α} (atomic : q.Atomic)
    (ok : ∀ a u, q.on s.store = (.ok a, u) → Store.Onward s.store u) (c : Caller) (h : Handling)
    (fault : Option Storage.Error) (log : α → List Log.Entry)
    (next : Except Storage.Error α → Api.Job) :
    Store.Onward s.store (query s c h fault q log next).1.store :=
  withFault_onward atomic s.store ok fault

theorem query_onward_of_reads {α : Type} {q : Storage.Query α} (hq : q.Reads) (c : Caller)
    (h : Handling) (fault : Option Storage.Error) (log : α → List Log.Entry)
    (next : Except Storage.Error α → Api.Job) :
    Store.Onward s.store (query s c h fault q log next).1.store := by
  refine query_onward hq.atomic (fun a u hon => ?_) c h fault log next
  rw [hq.eq_of_on hon]
  exact .refl _

theorem afterSaver_store (s : State) (m : Saver.Moved) : (afterSaver s m).1.store = s.store := by
  obtain ⟨hs, hafter, -⟩ := exists_afterSaver s m
  rw [hafter]

theorem afterPublisher_store (s : State) (m : Publisher.Moved) :
    (afterPublisher s m).1.store = s.store := by
  obtain ⟨hs, hafter, -⟩ := exists_afterPublisher s m
  rw [hafter]

theorem handle_onward (s : State) (c : Caller) (h : Handling) (fault : Option Storage.Error) :
    Store.Onward s.store (handle s c h fault).1.store := by
  unfold handle
  split
  · exact .refl _
  · exact query_onward (Store.insert_atomic _) (fun _ _ => Store.insert_onward) ..
  · exact query_onward (Store.createAll_atomic _) (fun _ _ => Store.createAll_onward) ..
  · exact query_onward_of_reads (Store.describe_reads _) ..
  · exact query_onward_of_reads (Store.list_reads _) ..
  · exact query_onward (Store.update_atomic _) (fun _ _ => Store.update_onward) ..
  · exact query_onward (Store.remove_atomic _) (fun _ _ => Store.remove_onward) ..
  · rw [afterSaver_store]
    exact .refl _
  · rw [afterPublisher_store]
    exact .refl _
  · exact .refl _
  · exact .refl _

/-- No action changes how the database is reached, or takes an id back. -/
theorem Move.onward {m : Moved} (hmove : Move s a m) : Store.Onward s.store m.1.store := by
  have after {os : List Offer} {fault : Option Storage.Error} {r : Except Storage.Error Nat}
      {v : Store} (hon : (withFault fault (Store.createAll os)).on s.store = (r, v)) :
      Store.Onward s.store v := by
    have honward := withFault_onward (Store.createAll_atomic os) s.store
      (fun _ _ => Store.createAll_onward) fault
    rw [hon] at honward
    exact honward
  cases hmove with
  | receive => exact .refl _
  | handle => exact handle_onward ..
  | saver =>
    rw [afterSaver_store]
    exact .refl _
  | publisher =>
    rw [afterPublisher_store]
    exact .refl _
  | store busy stored =>
    rw [afterSaver_store]
    exact after stored
  | refuse busy refused =>
    rw [afterSaver_store]
    exact after refused

theorem onward_of_path (hpath : Path step s as es t) : Store.Onward s.store t.store := by
  induction hpath with
  | refl => exact .refl _
  | tail _ hstep ih => exact ih.trans (move_cases hstep).onward


/-! ## What is promised of requests -/

/-- What is promised of the requests of a kind: whether they may hand offers to the saver, and with
    which status they are answered. -/
structure Promise where
  asks : Request → Prop
  hands : Request → Prop
  status : Request → Nat → Prop

/-- How storage answers the batch of a handler. -/
abbrev Storing := List Offer → Except Storage.Error Nat → Prop

/-- Every handler keeps what is promised of its request. -/
def Keeps (fair : Storing) (p : Promise) (hs : List (Caller × Handling)) : Prop :=
  ∀ q ∈ hs, p.asks q.2.request →
    Ends fair (p.hands q.2.request) (p.status q.2.request) q.2.job

/-- Every answer among the events is as it was promised. -/
def Honours (p : Promise) (es : List Event) : Prop :=
  ∀ r b, (r, b) ∈ answers es → p.asks r → p.status r b.status

variable {fair : Storing} {p : Promise} {hs hs' : List (Caller × Handling)}

theorem honours_of_answers (none : answers new = []) : Honours p new := by
  intro r b hmem
  rw [none] at hmem
  cases hmem

theorem Honours.append (hk : Honours p es) (hk' : Honours p new) : Honours p (es ++ new) := by
  intro r b hmem
  rw [answers_append] at hmem
  rcases List.mem_append.mp hmem with hold | hnow
  · exact hk r b hold
  · exact hk' r b hnow

/-- Verdicts change nothing about what is promised. -/
theorem Keeps.kept (hk : Keeps fair p hs) (kept : Kept hs hs') : Keeps fair p hs' := by
  refine kept.jobs (fun _ r job => p.asks r → Ends fair (p.hands r) (p.status r) job) ?_ hk
  intro c r
  refine ⟨?_, ?_⟩
  · intro o next hends v asks
    exact Ends.heeds.saved (hends asks) v
  · intro kind id next hends v asks
    exact Ends.heeds.sent (hends asks) v

theorem Keeps.replace {k : Handling} (hk : Keeps fair p hs)
    (hends : p.asks k.request → Ends fair (p.hands k.request) (p.status k.request) k.job) :
    Keeps fair p (replace c k hs) := by
  intro q hq
  obtain ⟨q', hq', rfl⟩ := List.mem_map.mp hq
  by_cases heq : q'.1 = c
  · rw [if_pos heq]
    exact hends
  · rw [if_neg heq]
    exact hk q' hq'

/-- A handler that runs a query answers nothing yet, and goes on with what the query says. -/
theorem Keeps.query {α : Type} {q : Storage.Query α} {next : Except Storage.Error α → Api.Job}
    (hk : Keeps fair p s.handlings) (log : α → List Log.Entry)
    (hends : p.asks h.request → Ends fair (p.hands h.request) (p.status h.request)
      (next ((withFault fault q).on s.store).1)) :
    Keeps fair p (query s c h fault q log next).1.handlings ∧
      Honours p (query s c h fault q log next).2 := by
  refine ⟨hk.replace (k := { h with job := next ((withFault fault q).on s.store).1 }) hends,
    honours_of_answers ?_⟩
  unfold Service.query
  rcases (withFault fault q).on s.store with ⟨r, u⟩
  cases r <;> rfl

theorem Keeps.afterSaver (hk : Keeps fair p s.handlings) (m : Saver.Moved) :
    Keeps fair p (afterSaver s m).1.handlings ∧ Honours p (afterSaver s m).2 := by
  obtain ⟨hs, hafter, kept⟩ := exists_afterSaver s m
  refine ⟨?_, honours_of_answers (inside_saver m.2).answers⟩
  rw [hafter]
  exact hk.kept kept

theorem Keeps.afterPublisher (hk : Keeps fair p s.handlings) (m : Publisher.Moved) :
    Keeps fair p (afterPublisher s m).1.handlings ∧ Honours p (afterPublisher s m).2 := by
  obtain ⟨hs, hafter, kept⟩ := exists_afterPublisher s m
  refine ⟨?_, honours_of_answers (inside_publisher m.2).answers⟩
  rw [hafter]
  exact hk.kept kept

/-! ## One action -/

/-- Whatever a handler does first, it keeps what is promised, if storage is fair to it. -/
theorem Keeps.handle (hk : Keeps fair p s.handlings) (found : s.handling? c = some h)
    (hfair : ∀ os, os.length ≤ Api.maxBatch →
      fair os ((withFault fault (Store.createAll os)).on s.store).1) :
    Keeps fair p (handle s c h fault).1.handlings ∧ Honours p (handle s c h fault).2 := by
  have hends : p.asks h.request → Ends fair (p.hands h.request) (p.status h.request) h.job :=
    hk _ (mem_of_lookup found)
  have hwaits : Keeps fair p (s.setHandling c { h with isWaiting := true }).handlings :=
    hk.replace (k := { h with isWaiting := true }) hends
  unfold Service.handle
  split <;> rename_i hjob <;> rw [hjob] at hends
  · rename_i b
    refine ⟨fun q hq => hk q (List.mem_of_mem_filter hq), ?_⟩
    intro r b' hmem asks
    obtain ⟨rfl, rfl⟩ := Prod.mk.inj (List.mem_singleton.mp hmem)
    rw [Api.status_sent]
    cases hends asks with
    | answer status => exact status
  · exact hk.query _ fun asks => nomatch hends asks
  · refine hk.query _ fun asks => ?_
    cases hends asks with
    | createAll few rest => exact rest _ (hfair _ few)
  · exact hk.query _ fun asks => nomatch hends asks
  · exact hk.query _ fun asks => nomatch hends asks
  · exact hk.query _ fun asks => nomatch hends asks
  · exact hk.query _ fun asks => nomatch hends asks
  · exact hwaits.afterSaver _
  · exact hwaits.afterPublisher _
  · rename_i next
    refine ⟨hk.replace (k := { h with job := next }) fun asks => ?_, honours_of_answers rfl⟩
    cases hends asks with
    | count rest => exact rest
  · rename_i next
    refine ⟨hk.replace (k := { h with job := next }) fun asks => ?_, honours_of_answers rfl⟩
    cases hends asks with
    | log rest => exact rest

theorem Keeps.move {m : Moved} (hk : Keeps fair p s.handlings) (hmove : Move s a m)
    (promised : ∀ r, p.asks r → Ends fair (p.hands r) (p.status r) (Api.jobOf r))
    (hfair : ∀ c fault, a = .handle c fault → ∀ os, os.length ≤ Api.maxBatch →
      fair os ((withFault fault (Store.createAll os)).on s.store).1) :
    Keeps fair p m.1.handlings ∧ Honours p m.2 := by
  cases hmove with
  | receive =>
    refine ⟨?_, honours_of_answers rfl⟩
    intro q hq
    rcases List.mem_append.mp hq with hold | hlast
    · exact hk q hold
    · rw [List.mem_singleton.mp hlast]
      exact promised _
  | handle found => exact hk.handle found (hfair _ _ rfl)
  | saver own move => exact hk.afterSaver _
  | publisher own move => exact hk.afterPublisher _
  | @store why f after fault n u m busy stored move =>
    have hkeeps := hk.afterSaver (s := { s with store := u }) m
    have hlogged : Honours p [.logged (Store.batchLog n)] := honours_of_answers rfl
    exact ⟨hkeeps.1, hlogged.append hkeeps.2⟩
  | @refuse why f after fault e u m busy refused move =>
    exact hk.afterSaver (s := { s with store := u }) m

/-! ## Whole runs -/

/-- What is promised of requests is kept in every run in which storage is fair to handlers: it may
    be asked in any state of the run, whose store goes on to the last one. -/
theorem keeps_of_path (fresh : s₀.handlings = []) (hrun : Path step s₀ as es s)
    (promised : ∀ r, p.asks r → Ends fair (p.hands r) (p.status r) (Api.jobOf r))
    (hfair : ∀ store, Store.Onward store s.store → ∀ c fault, .handle c fault ∈ as →
      ∀ os, os.length ≤ Api.maxBatch →
        fair os ((withFault fault (Store.createAll os)).on store).1) :
    Keeps fair p s.handlings ∧ Honours p es := by
  induction hrun with
  | refl =>
    rw [fresh]
    exact ⟨nofun, nofun⟩
  | @tail as es t a u new hpath hstep ih =>
    have hmove := move_cases hstep
    have honward : Store.Onward t.store u.store := hmove.onward
    obtain ⟨hkeeps, hhonours⟩ := ih fun store hstore c fault hmem =>
      hfair store (hstore.trans honward) c fault (List.mem_append_left _ hmem)
    obtain ⟨hkeeps', hhonours'⟩ := hkeeps.move hmove promised fun c fault ha =>
      hfair t.store honward c fault (by rw [ha]; simp)
    exact ⟨hkeeps', hhonours.append hhonours'⟩

/-- Requests to create several offers at once: nothing is handed to the saver, and what is not in
    order or out of range is answered with 400. -/
def atOnce : Promise where
  asks := Posts .batch
  hands _ := False
  status r n := n = 400 ↔ ¬ InOrder r ∨ OutOfRange r

/-- Requests to buffer several offers: what is not in order is answered with 400, and none of it is
    handed to the saver. -/
def buffered : Promise where
  asks := Posts .buffered
  hands := InOrder
  status r n := n = 400 ↔ ¬ InOrder r

/-- A store that is in good order at the end, with ids for another batch, was fair all along. -/
theorem atOnce_of_path (fresh : s₀.handlings = []) (hrun : Path step s₀ as es s)
    (ready : s.store.access = .ready)
    (room : s.store.table.issued + Api.maxBatch ≤ Storage.maxColumn)
    (faultless : ∀ c e, .handle c (some e) ∉ as) :
    Keeps Store.Fair atOnce s.handlings ∧ Honours atOnce es := by
  refine keeps_of_path fresh hrun ?_ ?_
  · intro r asks
    rw [Api.jobOf_of_batch asks]
    exact Api.ends_createBatch r
  · intro store honward c fault hmem os few
    cases fault with
    | some e => exact absurd hmem (faultless c e)
    | none =>
      have hissued := honward.issued
      exact Store.createAll_fair (honward.access.symm.trans ready) (by omega)

theorem buffered_of_path (fresh : s₀.handlings = []) (hrun : Path step s₀ as es s) :
    Keeps (fun _ _ => True) buffered s.handlings ∧ Honours buffered es := by
  refine keeps_of_path fresh hrun ?_ fun _ _ _ _ _ _ _ => trivial
  intro r asks
  rw [Api.jobOf_of_buffered asks]
  exact Api.ends_createBuffered _ r

/-! ## Requests that are refused at once -/

/-- A request that is refused is answered as soon as its handler moves twice, and the saver has
    nothing to do with it. -/
theorem exists_refusal {r : Request} {e : Api.Error} (hjob : Api.jobOf r = .refuse e)
    (fresh : s.handling? c = none) :
    ∃ u, Path step s [.receive c r, .handle c none, .handle c none]
        [.received c r, .logged e.log, .answered c r (Api.sent r e.response)] u ∧
      u.saver = s.saver := by
  let h : Handling := { request := r, job := .refuse e }
  let h' : Handling := { request := r, job := .answer e.response }
  have hreceive : step s (.receive c r) = some (receive s c r) := by
    simp only [step, fresh, Option.isSome_none, Bool.false_eq_true, if_false]
  have found : (receive s c r).1.handling? c = some h := by
    have hlast : (receive s c r).1.handling? c = (s.handlings ++ [(c, h)]).lookup c := by
      show (s.handlings ++ [(c, _)]).lookup c = _
      rw [hjob]
    have hnone : s.handlings.lookup c = none := fresh
    rw [hlast, List.lookup_append, hnone]
    exact List.lookup_cons_self
  have hlog : step (receive s c r).1 (.handle c none) =
      some ((receive s c r).1.setHandling c h', [.logged e.log]) := by
    simp only [step, found]
    rfl
  have found' : ((receive s c r).1.setHandling c h').handling? c = some h' := lookup_replace found
  have hanswer : step ((receive s c r).1.setHandling c h') (.handle c none) =
      some (((receive s c r).1.setHandling c h').endHandling c,
        [.answered c r (Api.sent r e.response)]) := by
    simp only [step, found']
    rfl
  exact ⟨_, ((Path.single hreceive).tail hlog).tail hanswer, rfl⟩

/-! ## Both kinds of requests -/

/-- A request to buffer offers hands nothing to the saver, now or later, and as soon as its handler
    moves twice it is answered with 400. -/
structure Refused (s : State) (r : Request) : Prop where
  aside : ∀ c h, s.handling? c = some h → h.request = r → ∀ fault m,
    step s (.handle c fault) = some m → m.1.saver = s.saver ∧ saverEvents m.2 = []
  answered : ∀ c, s.handling? c = none → ∃ es b u,
    Path step s [.receive c r, .handle c none, .handle c none] es u ∧ (r, b) ∈ answers es ∧
      b.status = 400 ∧ u.saver = s.saver

theorem refused_of_not_inOrder {r : Request} (hk : Keeps fair buffered s.handlings)
    (post : Posts .buffered r) (hnot : ¬ InOrder r) : Refused s r := by
  refine ⟨?_, ?_⟩
  · rintro c h found rfl fault m hstep
    have hends : Ends fair (InOrder h.request) _ h.job := hk _ (mem_of_lookup found) post
    have hnone : ∀ o next, h.job ≠ .save o next := by
      intro o next hjob
      rw [hjob] at hends
      cases hends with
      | save may => exact hnot may
    cases move_cases hstep with
    | handle found' =>
      rw [found] at found'
      cases found'
      exact handle_aside hnone s c fault
  · intro c fresh
    obtain ⟨reason, hjob⟩ := Api.jobOf_of_not_inOrder post hnot
    obtain ⟨u, hpath, hsaver⟩ := exists_refusal hjob fresh
    exact ⟨_, _, u, hpath, List.mem_singleton.mpr rfl, Api.status_sent _ _, hsaver⟩

/-- Take any run of a service in which storage works for handlers, and ids are left for a batch, and
    any run of another one. A request to create offers at once, answered in the one, and a request
    to buffer the same, answered in the other, are both answered with 400 or neither, unless the
    list is in order but for a number that no column can hold. A list that is not in order is
    refused with none of it handed to the saver. So whatever is accepted there can be stored, offer
    by offer, if its numbers are in range, and otherwise never. -/
theorem bulk_requests_agree_within_range {s₀' s' : State} {as' : List Action} {es' : List Event}
    (fresh : s₀.handlings = []) (hrun : Path step s₀ as es s)
    (faultless : ∀ c e, .handle c (some e) ∉ as) (ready : s.store.access = .ready)
    (room : s.store.table.issued + Api.maxBatch ≤ Storage.maxColumn)
    (fresh' : s₀'.handlings = []) (hrun' : Path step s₀' as' es' s') :
    (∀ r b r' b', (r, b) ∈ answers es → Posts .batch r → (r', b') ∈ answers es' →
      Posts .buffered r' → Alike r r' → (b.status = 400 ↔ b'.status = 400 ∨ OutOfRange r)) ∧
    (∀ r, Posts .buffered r → ¬ InOrder r → Refused s' r) ∧
    ∀ r b, (r, b) ∈ answers es' → Posts .buffered r → b.status = 202 →
      ∃ fs, Api.offerList r = .ok fs ∧ ∀ f ∈ fs, ∀ store : Store, store.access = .ready →
        store.table.issued < Storage.maxColumn →
          (((Store.createAll [f.toOffer 0]).on store).1 = .ok 1 ↔ Storable (f.toOffer 0)) := by
  obtain ⟨-, hhonours⟩ := atOnce_of_path fresh hrun ready room faultless
  obtain ⟨hkeeps', hhonours'⟩ := buffered_of_path fresh' hrun'
  refine ⟨?_, fun r post hnot => refused_of_not_inOrder hkeeps' post hnot, ?_⟩
  · intro r b r' b' hmem post hmem' post' alike
    have hatOnce : b.status = 400 ↔ ¬ InOrder r ∨ OutOfRange r := hhonours r b hmem post
    have hbuffered : b'.status = 400 ↔ ¬ InOrder r' := hhonours' r' b' hmem' post'
    rw [hatOnce, hbuffered, alike.inOrder_iff]
  · intro r b hmem post accepted
    have hbuffered : b.status = 400 ↔ ¬ InOrder r := hhonours' r b hmem post
    have horder : InOrder r := by
      by_contra hnot
      rw [hbuffered.mpr hnot] at accepted
      cases accepted
    obtain ⟨fs, hlist⟩ := horder
    refine ⟨fs, hlist, fun f hf store ready' room' => ?_⟩
    have hfair : Store.Fair [f.toOffer 0] ((Store.createAll [f.toOffer 0]).on store).1 :=
      Store.createAll_fair ready' room'
    rcases hfair with ⟨all, hok⟩ | ⟨bad, n, herror⟩
    · exact ⟨fun _ => all _ List.mem_cons_self, fun _ => hok⟩
    · obtain ⟨o, ho, hnot⟩ := bad
      rw [List.mem_singleton.mp ho] at hnot
      rw [herror]
      exact ⟨nofun, fun hstorable => absurd hstorable hnot⟩

/-- A list of one offer whose grade no column can hold is refused at once, and accepted by way of
    the saver. -/
theorem exists_runs_out_of_range :
    ∃ r r' : Request, Posts .batch r ∧ Posts .buffered r' ∧ Alike r r' ∧
      ∃ s₀ as es s as' es' s' b b', s₀.handlings = [] ∧ Path step s₀ as es s ∧
        (∀ c e, .handle c (some e) ∉ as) ∧ s.store.access = .ready ∧
        s.store.table.issued + Api.maxBatch ≤ Storage.maxColumn ∧ Path step s₀ as' es' s' ∧
        (r, b) ∈ answers es ∧ b.status = 400 ∧ (r', b') ∈ answers es' ∧ b'.status = 202 := by
  let saver : Saver.State := { capacity := 2, groups := 2, ticker := { period := .millis 1000 } }
  let s₀ : State := { saver, publisher := Publisher.new "offers" 4 }
  let body := "\x7b\"offers\":[\x7b\"user_id\":1,\"team_id\":1," ++
    "\"grade\":9223372036854775808\x7d]\x7d"
  let request (path : String) : Request :=
    { method := .post, target := { path }, headers := [("content-type", "application/json")]
      body := body.toUTF8.toList }
  let r := request "/v1/offers/batch"
  let r' := request "/v1/offers/buffered"
  let as : List Action := [.receive 0 r, .handle 0 none, .handle 0 none, .handle 0 none]
  let as' : List Action := [.saver .init, .receive 0 r', .handle 0 none, .saver .loop,
    .saver (.collect 0), .handle 0 none]
  let b := (Api.Error.storage (.valueOutOfRange 9223372036854775808)).response
  let b' := Response.json 202 (Api.numbered "accepted" 1)
  have hend : (follow step s₀ as).map (fun m => (answers m.2, m.1.store)) =
      some ([(r, b)], {}) := by
    decide +kernel
  have hend' : (follow step s₀ as').map (fun m => answers m.2) = some [(r', b')] := by
    decide +kernel
  obtain ⟨⟨s, es⟩, hfollow, hm⟩ := Option.map_eq_some_iff.mp hend
  obtain ⟨⟨s', es'⟩, hfollow', hanswers'⟩ := Option.map_eq_some_iff.mp hend'
  obtain ⟨hanswers, hstore⟩ := Prod.mk.inj hm
  simp only [] at hanswers hanswers' hstore
  refine ⟨r, r', by decide +kernel, by decide +kernel, ⟨rfl, rfl⟩, s₀, as, es, s, as', es', s', b,
    b', rfl, path_of_follow hfollow, ?_, ?_, ?_, path_of_follow hfollow', ?_, rfl, ?_, rfl⟩
  · intro c e hmem
    simp [as] at hmem
  · rw [hstore]
  · rw [hstore]
    decide +kernel
  · rw [hanswers]
    exact List.mem_cons_self
  · rw [hanswers']
    exact List.mem_cons_self

/-- The list of that request is out of range, and the theorem says so from both answers. -/
theorem bulk_requests_agree_within_range_big_grade :
    ∃ r r' s₀ as es s as' es' s' b b', s₀.handlings = [] ∧ Path step s₀ as es s ∧
      Path step s₀ as' es' s' ∧ (r, b) ∈ answers es ∧ Posts .batch r ∧ b.status = 400 ∧
      (r', b') ∈ answers es' ∧ Posts .buffered r' ∧ b'.status = 202 ∧ Alike r r' ∧
      OutOfRange r := by
  obtain ⟨r, r', post, post', alike, s₀, as, es, s, as', es', s', b, b', fresh, hrun, faultless,
    ready, room, hrun', hmem, bad, hmem', accepted⟩ := exists_runs_out_of_range
  obtain ⟨hagree, -, -⟩ :=
    bulk_requests_agree_within_range fresh hrun faultless ready room fresh hrun'
  have hout : OutOfRange r := by
    rcases (hagree r b r' b' hmem post hmem' post' alike).mp bad with bad' | hout
    · rw [bad'] at accepted
      cases accepted
    · exact hout
  exact ⟨r, r', s₀, as, es, s, as', es', s', b, b', fresh, hrun, hrun', hmem, post, bad, hmem',
    post', accepted, alike, hout⟩

/-- Not every request that is refused at once would be refused on its way to the saver. -/
theorem not_every_refused_batch_is_refused_buffered :
    ¬ ∀ (s₀ : State) as es s as' es' s' r b r' b', s₀.handlings = [] → Path step s₀ as es s →
      (∀ c e, .handle c (some e) ∉ as) → s.store.access = .ready →
      s.store.table.issued + Api.maxBatch ≤ Storage.maxColumn → Path step s₀ as' es' s' →
      (r, b) ∈ answers es → Posts .batch r → (r', b') ∈ answers es' → Posts .buffered r' →
      Alike r r' → b.status = 400 → b'.status = 400 := by
  intro hall
  obtain ⟨r, r', post, post', alike, s₀, as, es, s, as', es', s', b, b', fresh, hrun, faultless,
    ready, room, hrun', hmem, bad, hmem', accepted⟩ := exists_runs_out_of_range
  have bad' := hall s₀ as es s as' es' s' r b r' b' fresh hrun faultless ready room hrun' hmem post
    hmem' post' alike bad
  rw [bad'] at accepted
  cases accepted

end OfferService.Service
