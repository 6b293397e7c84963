import OfferService.Proofs.Api.News
import OfferService.Proofs.Service.Books
import OfferService.Proofs.Service.Turns
import OfferService.Proofs.Storage.Later

/-
  OfferService.Proofs.Service.Strides

  The way of news from storage to the publisher. Requests are handled one after another and the
  publisher is open; then a step either changes nothing that is to be published, or it is one of
  three: storage makes a change, the message about it is put into the queue, and the request is
  answered. They come in this order, and each once.
-/
namespace OfferService.Publisher

/-! ## An open publisher -/

variable {s : State} {a : Action} {m : Moved} {c : Caller} {e : Envelope}

/-- The publisher takes messages. -/
structure Accepting (s : State) : Prop where
  running : s.shutdown = false
  unclosed : s.queue.isClosed = false

/-- Nobody begins to close the publisher by this action, or drops it. -/
def Action.Spares : Action → Prop
  | .beginClose _ => False
  | .drop => False
  | _ => True

/-- An open publisher stays open, with the same topic, and lets in a sender who waits or changes
    nothing for senders. -/
inductive Reception (s : State) (m : Moved) : Prop
  | letIn {k f} (found : s.pending.lookup k = some f)
      (pending : m.1.pending = s.pending.filter fun p => p.1 ≠ k)
      (events : m.2 = [.queued k f, .returned k (.ok ())])
  | aside (pending : m.1.pending = s.pending) (nothing : queued m.2 = [])
      (silent : ∀ k v, .returned k v ∉ m.2)

theorem Accepting.step (open_ : Accepting s) (hmove : Move s a m) (spares : a.Spares) :
    Accepting m.1 ∧ m.1.topic = s.topic := by
  cases hmove with
  | turnAway => exact ⟨open_, rfl⟩
  | enter =>
    refine ⟨⟨open_.running, ?_⟩, rfl⟩
    exact (Mailbox.isClosed_enter _ _ _).trans ((Mailbox.isClosed_request _ _).trans open_.unclosed)
  | wait => exact ⟨⟨open_.running, (Mailbox.isClosed_request _ _).trans open_.unclosed⟩, rfl⟩
  | withdraw => exact ⟨⟨open_.running, (Mailbox.isClosed_withdraw _ _).trans open_.unclosed⟩, rfl⟩
  | letIn => exact ⟨⟨open_.running, (Mailbox.isClosed_enter _ _ _).trans open_.unclosed⟩, rfl⟩
  | closeFirst => exact absurd spares id
  | closeLater => exact absurd spares id
  | closeEnd => exact ⟨⟨open_.running, open_.unclosed⟩, rfl⟩
  | drop => exact absurd spares id
  | shut _ asked =>
    rw [open_.running] at asked
    cases asked
  | take _ _ next =>
    exact ⟨⟨open_.running, (Mailbox.take?_eq_some next).2.trans open_.unclosed⟩, rfl⟩
  | exit => exact ⟨⟨open_.running, open_.unclosed⟩, rfl⟩
  | retry => exact ⟨⟨open_.running, open_.unclosed⟩, rfl⟩
  | deliver => exact ⟨⟨open_.running, open_.unclosed⟩, rfl⟩
  | fail => exact ⟨⟨open_.running, open_.unclosed⟩, rfl⟩
  | giveUp => exact ⟨⟨open_.running, open_.unclosed⟩, rfl⟩

/-- Who sends a message to an open publisher puts it into the queue, or waits for a place. -/
theorem Accepting.send (open_ : Accepting s) (c : Caller) (e : Envelope) :
    ((send s c e).1.pending = s.pending ∧
      (send s c e).2 = [.queued c e, .returned c (.ok ())]) ∨
    (send s c e).1.pending = s.pending ++ [(c, e)] ∧ (send s c e).2 = [] := by
  have hcases := send_cases s c e
  generalize Publisher.send s c e = m at hcases ⊢
  cases hcases with
  | turnAway asked =>
    rw [open_.running] at asked
    cases asked
  | enter => exact Or.inl ⟨rfl, rfl⟩
  | wait => exact Or.inr ⟨rfl, rfl⟩

theorem Accepting.reception (open_ : Accepting s) (hmove : Move s a m)
    (own : ∀ c e, a ≠ .send c e) (spares : a.Spares) : Reception s m := by
  cases hmove with
  | turnAway => exact absurd rfl (own _ _)
  | enter => exact absurd rfl (own _ _)
  | wait => exact absurd rfl (own _ _)
  | withdraw _ ended =>
    rw [open_.running, open_.unclosed] at ended
    simp at ended
  | letIn found => exact .letIn found rfl rfl
  | closeFirst => exact absurd spares id
  | closeLater => exact absurd spares id
  | closeEnd => exact .aside rfl rfl (by simp)
  | drop => exact absurd spares id
  | shut => exact .aside rfl rfl (by simp)
  | take => exact .aside rfl rfl (by simp)
  | exit => exact .aside rfl rfl (by simp)
  | retry => exact .aside rfl rfl (by simp)
  | deliver => exact .aside rfl rfl (by simp)
  | fail => exact .aside rfl rfl (by simp)
  | giveUp => exact .aside rfl rfl (by simp)

end OfferService.Publisher

namespace OfferService.Service

open OfferService.Api (Brings Heralds News Posts)
open OfferService.Publisher (Accepting)
open OfferService.Storage (Table)

variable {s t : State} {a : Action} {m : Moved} {c k : Caller} {h : Handling} {es fs : List Event}
  {news owed : List News} {fault : Option Storage.Error}

/-! ## What is published -/

/-- What happened in the publisher. -/
def Event.ofPublisher : Event → List Publisher.Event
  | .publisher e => [e]
  | _ => []

/-- What happened in the publisher, in that order. -/
def publisherEvents (es : List Event) : List Publisher.Event := es.flatMap Event.ofPublisher

/-- The messages put into the queue of the publisher, in that order. -/
def published (es : List Event) : List Envelope :=
  (Publisher.queued (publisherEvents es)).map (·.2)

@[simp] theorem published_append (es fs : List Event) :
    published (es ++ fs) = published es ++ published fs := by
  rw [published, publisherEvents, List.flatMap_append, Publisher.queued_append, List.map_append]
  rfl

theorem published_saver (es : List Saver.Event) : published (es.map .saver) = [] := by
  rw [published, publisherEvents, flatMap_map_eq_nil (fun _ => rfl)]
  rfl

theorem published_publisher (es : List Publisher.Event) :
    published (es.map .publisher) = (Publisher.queued es).map (·.2) := by
  have hevents : publisherEvents (es.map .publisher) = es := by
    induction es with
    | nil => rfl
    | cons e es ih => exact congrArg (e :: ·) ih
  rw [published, hevents]

/-- The message about a piece of news. -/
def State.letter (s : State) (n : News) : Envelope :=
  OfferService.Event.seal { kind := n.1, id := n.2, moment := s.clock } s.publisher.topic

/-! ## Steps -/

/-- Storage has made the change that a piece of news tells of. -/
inductive Written (t u : Table) : News → Prop
  | created {id} (next : id.toNat = t.issued + 1) (issued : u.issued = t.issued + 1) :
      Written t u (.created, id)
  | updated {id} (fits : id.toNat ≤ Storage.maxColumn) (found : t.find? id.toInt64 ≠ none)
      (issued : u.issued = t.issued) : Written t u (.updated, id)
  | removed {id} (fits : id.toNat ≤ Storage.maxColumn) (found : t.find? id.toInt64 ≠ none)
      (gone : u.find? id.toInt64 = none) (issued : u.issued = t.issued) :
      Written t u (.removed, id)

/-- The action is a move of the handler of a request to create one offer. -/
def Creates (s : State) (a : Action) : Prop :=
  ∃ c fault h, a = .handle c fault ∧ s.handling? c = some h ∧ Posts .offers h.request

/-- What one step comes to for the request that is being handled: what storage has changed for it,
    and what of that is still to be sent, before and after it. -/
inductive Stride (s : State) (a : Action) (m : Moved) :
    (news owed news' owed' : List News) → Prop
  | rest {ns os} (later : Table.Later s.store.table m.1.store.table) (silent : published m.2 = [])
      (unanswered : answers m.2 = []) : Stride s a m ns os ns os
  | write {n} (later : Table.Later s.store.table m.1.store.table)
      (written : Written s.store.table m.1.store.table n)
      (source : n.1 = .created → Creates s a) (silent : published m.2 = [])
      (unanswered : answers m.2 = []) : Stride s a m [] [] [n] [n]
  | send {n} (same : m.1.store = s.store) (sent : published m.2 = [s.letter n])
      (unanswered : answers m.2 = []) : Stride s a m [n] [n] [n] []
  | answer {ns r b} (same : m.1.store = s.store) (silent : published m.2 = [])
      (answered : answers m.2 = [(r, b)]) (heralds : Heralds r b ns) : Stride s a m ns [] [] []

/-! ## The request that is being handled -/

/-- What has come of the request that is being handled, and where its handler is. -/
inductive Serves (s : State) : (news owed : List News) → Prop
  | idle (nobody : s.handlings = []) (pending : s.publisher.pending = []) : Serves s [] []
  | free {c h ns os} (only : s.handlings = [(c, h)]) (free : h.isWaiting = false)
      (brings : Brings h.request ns os h.job) (pending : s.publisher.pending = []) : Serves s ns os
  /-- The handler waits for the saver. -/
  | saving {c h o next} (only : s.handlings = [(c, h)]) (waits : h.isWaiting = true)
      (job : h.job = .save o next) (rest : ∀ v, Brings h.request [] [] (next v))
      (pending : s.publisher.pending = []) : Serves s [] []
  /-- The handler waits for a place in the queue of the publisher. -/
  | sending {c h kind id next} (only : s.handlings = [(c, h)]) (waits : h.isWaiting = true)
      (job : h.job = .publish kind id next)
      (rest : Brings h.request [(kind, id)] [] (next (.ok ())))
      (pending : s.publisher.pending = [(c, s.letter (kind, id))]) :
      Serves s [(kind, id)] [(kind, id)]

/-- After a step, somebody is served as before. -/
def Goes (s : State) (a : Action) (m : Moved) (news owed : List News) : Prop :=
  ∃ news' owed', Serves m.1 news' owed' ∧ Stride s a m news owed news' owed'

theorem letter_eq (clock : t.clock = s.clock) (topic : t.publisher.topic = s.publisher.topic) :
    t.letter = s.letter := by
  funext n
  rw [State.letter, State.letter, clock, topic]

/-! ## Moves of the saver -/

/-- Only who waits for the saver goes on as it moves. -/
theorem Serves.afterSaver (hs : Serves s news owed) (n : Saver.Moved) :
    Serves (afterSaver s n).1 news owed := by
  have honly {c : Caller} {h : Handling} (only : s.handlings = [(c, h)]) :
      (Service.afterSaver s n).1.handlings = [(c, h.hear c (n.2.map .saver))] :=
    handlings_afterSaver only n
  obtain ⟨handlings, hafter, -⟩ := exists_afterSaver s n
  have hpublisher : (Service.afterSaver s n).1.publisher = s.publisher := by rw [hafter]
  cases hs with
  | idle nobody pending =>
    exact .idle (handlings_afterSaver_of_idle nobody n) (by rw [hpublisher, pending])
  | free only free brings pending =>
    have hsame := honly only
    rw [Handling.hear_of_free free] at hsame
    exact .free hsame free brings (by rw [hpublisher, pending])
  | @saving c h o next only waits job rest pending =>
    have hheard := honly only
    rcases Handling.hear_saver c h n.2 with hsame | ⟨o', next', v, job', -, htold⟩
    · rw [hsame] at hheard
      exact .saving hheard waits job rest (by rw [hpublisher, pending])
    · rw [job] at job'
      cases job'
      rw [htold] at hheard
      exact .free hheard rfl (rest v) (by rw [hpublisher, pending])
  | @sending c h kind id next only waits job rest pending =>
    have hheard := honly only
    have hletter : (Service.afterSaver s n).1.letter = s.letter := by
      rw [hafter]
      rfl
    rcases Handling.hear_saver c h n.2 with hsame | ⟨o', next', v, job', -, -⟩
    · rw [hsame] at hheard
      exact .sending hheard waits job rest (by rw [hpublisher, pending, hletter])
    · rw [job] at job'
      cases job'

theorem Serves.withStore (hs : Serves s news owed) (u : Storage.Store) :
    Serves { s with store := u } news owed := by
  cases hs with
  | idle nobody pending => exact .idle nobody pending
  | free only free brings pending => exact .free only free brings pending
  | saving only waits job rest pending => exact .saving only waits job rest pending
  | sending only waits job rest pending => exact .sending only waits job rest pending

/-! ## Moves of the publisher -/

/-- Who is told that its message is in the queue goes on. -/
theorem Handling.hear_queued {kind : EventKind} {id : UInt64} {next : Publisher.Verdict → Api.Job}
    (waits : h.isWaiting = true) (job : h.job = .publish kind id next) (c : Caller)
    (e : Envelope) : h.hear c [.publisher (.queued c e), .publisher (.returned c (.ok ()))] =
      { h with job := next (.ok ()), isWaiting := false } := by
  exact hear_returned (b := [.queued c e]) (by simp) waits job c (.ok ())

/-- While the publisher is open, its moves put the message into the queue for which a handler waits,
    or are nothing to who is being served. -/
theorem goes_of_publisher {b : Publisher.Action} {n : Publisher.Moved} (hs : Serves s news owed)
    (open_ : Accepting s.publisher) (hmove : Publisher.Move s.publisher b n)
    (own : ∀ c e, b ≠ .send c e) (spares : b.Spares) :
    Goes s a (afterPublisher s n) news owed := by
  have honly {c : Caller} {h : Handling} (only : s.handlings = [(c, h)]) :
      (afterPublisher s n).1.handlings = [(c, h.hear c (n.2.map .publisher))] :=
    handlings_afterPublisher only n
  have hpublished : published (afterPublisher s n).2 = (Publisher.queued n.2).map (·.2) :=
    published_publisher n.2
  have hanswers : answers (afterPublisher s n).2 = [] := (inside_publisher n.2).answers
  obtain ⟨handlings, hafter, -⟩ := exists_afterPublisher s n
  have hpublisher : (afterPublisher s n).1.publisher = n.1 := by rw [hafter]
  have hstore : (afterPublisher s n).1.store = s.store := by rw [hafter]
  have hletter : (afterPublisher s n).1.letter = s.letter := by
    refine letter_eq (by rw [hafter]) ?_
    rw [hpublisher]
    exact (open_.step hmove spares).2
  cases open_.reception hmove own spares with
  | @letIn k f found pending' events =>
    cases hs with
    | idle nobody pending =>
      rw [pending] at found
      cases found
    | free only free brings pending =>
      rw [pending] at found
      cases found
    | saving only waits job rest pending =>
      rw [pending] at found
      cases found
    | @sending c h kind id next only waits job rest pending =>
      have hmem := mem_of_lookup found
      rw [pending] at hmem
      cases List.mem_singleton.mp hmem
      have hheard := honly only
      rw [events] at hheard hpublished
      have htold := hheard.trans
        (congrArg (fun h' => [(k, h')]) (Handling.hear_queued waits job k _))
      have hleft : (afterPublisher s n).1.publisher.pending = [] := by
        rw [hpublisher, pending', pending]
        simp
      exact ⟨_, _, .free htold rfl rest hleft, .send hstore hpublished hanswers⟩
  | aside pending' nothing silent =>
    have hsame {c : Caller} {h : Handling} (only : s.handlings = [(c, h)]) :
        (afterPublisher s n).1.handlings = [(c, h)] := by
      rw [honly only, Handling.hear_of_silent silent]
    have hpending : (afterPublisher s n).1.publisher.pending = s.publisher.pending := by
      rw [hpublisher, pending']
    have hrest : Stride s a (afterPublisher s n) news owed news owed := by
      refine .rest ?_ ?_ hanswers
      · rw [hstore]
        exact .refl _
      · rw [hpublished, nothing]
        rfl
    refine ⟨news, owed, ?_, hrest⟩
    cases hs with
    | idle nobody pending =>
      exact .idle (handlings_afterPublisher_of_idle nobody n) (by rw [hpending, pending])
    | free only free brings pending =>
      exact .free (hsame only) free brings (by rw [hpending, pending])
    | saving only waits job rest pending =>
      exact .saving (hsame only) waits job rest (by rw [hpending, pending])
    | sending only waits job rest pending =>
      exact .sending (hsame only) waits job rest (by rw [hpending, pending, hletter])

/-! ## Steps of handlers -/

/-- A handler has run a query: if that has failed nothing has changed, and if not the handler goes on
    with what it has changed. -/
theorem goes_of_query {α : Type} {q : Storage.Query α} {next : Except Storage.Error α → Api.Job}
    (only : s.handlings = [(c, h)]) (free : h.isWaiting = false)
    (pending : s.publisher.pending = []) (atomic : q.Atomic) (log : α → List Log.Entry)
    (failed : ∀ e, Brings h.request [] [] (next (.error e)))
    (stored : ∀ x u, q.on s.store = (.ok x, u) → Table.Later s.store.table u.table ∧
      (Brings h.request [] [] (next (.ok x)) ∨
        ∃ n, Brings h.request [n] [n] (next (.ok x)) ∧ Written s.store.table u.table n ∧
          (n.1 = .created → Posts .offers h.request))) :
    Goes s (.handle c fault) (query s c h fault q log next) [] [] := by
  unfold query
  rcases hon : (withFault fault q).on s.store with ⟨x, u⟩
  have honly := handlings_setHandling (s := { s with store := u }) only { h with job := next x }
  have hserves {ns os : List News} (brings : Brings h.request ns os (next x)) :
      Serves ({ s with store := u }.setHandling c { h with job := next x }) ns os :=
    .free honly free brings pending
  cases x with
  | error e =>
    refine ⟨[], [], hserves (failed e), .rest ?_ rfl rfl⟩
    show Table.Later s.store.table u.table
    rw [(withFault_atomic atomic fault).eq_of_on hon]
    exact .refl _
  | ok x =>
    obtain ⟨later, brings | ⟨n, brings, written, source⟩⟩ := stored x u (withFault_eq_ok hon).2
    · exact ⟨[], [], hserves brings, .rest later rfl rfl⟩
    · refine ⟨[n], [n], hserves brings, .write later written (fun hkind => ?_) rfl rfl⟩
      exact ⟨c, fault, h, rfl, handling?_of_only only, source hkind⟩

/-- A handler that sends its news puts it into the queue, or waits until there is a place. -/
theorem goes_of_publish {r : Http.Request} {kind : EventKind} {id : UInt64}
    {next : Publisher.Verdict → Api.Job} {isWaiting : Bool} (open_ : Accepting s.publisher)
    (only : s.handlings = [(c, { request := r, job := .publish kind id next, isWaiting })])
    (pending : s.publisher.pending = []) (rest : Brings r [(kind, id)] [] (next (.ok ()))) :
    Goes s a (afterPublisher
      (s.setHandling c { request := r, job := .publish kind id next, isWaiting := true })
      (Publisher.send s.publisher c (s.letter (kind, id)))) [(kind, id)] [(kind, id)] := by
  have hsend := open_.send c (s.letter (kind, id))
  have hopen := open_.step (Publisher.send_cases s.publisher c (s.letter (kind, id))) trivial
  generalize Publisher.send s.publisher c (s.letter (kind, id)) = n at hsend hopen ⊢
  have honly := handlings_setHandling only
    { request := r, job := .publish kind id next, isWaiting := true }
  generalize hs' : s.setHandling c { request := r, job := .publish kind id next, isWaiting := true } =
    s' at honly ⊢
  have hheard : (afterPublisher s' n).1.handlings = [(c, Handling.hear c
      { request := r, job := .publish kind id next, isWaiting := true } (n.2.map .publisher))] :=
    handlings_afterPublisher honly n
  have hpublished : published (afterPublisher s' n).2 = (Publisher.queued n.2).map (·.2) :=
    published_publisher n.2
  have hanswers : answers (afterPublisher s' n).2 = [] := (inside_publisher n.2).answers
  obtain ⟨hs, hafter, -⟩ := exists_afterPublisher s' n
  have hpublisher : (afterPublisher s' n).1.publisher = n.1 := by rw [hafter]
  have hstore : (afterPublisher s' n).1.store = s.store := by
    rw [hafter, ← hs']
    rfl
  rcases hsend with ⟨hpending, hevents⟩ | ⟨hpending, hevents⟩
  · -- There was a place in the queue.
    rw [hevents] at hheard hpublished
    have htold := hheard.trans
      (congrArg (fun h' => [(c, h')]) (Handling.hear_queued rfl rfl c _))
    refine ⟨_, _, .free htold rfl rest ?_, .send hstore hpublished hanswers⟩
    rw [hpublisher, hpending, pending]
  · -- There was none, and the handler waits.
    rw [hevents] at hheard hpublished
    have hletter : (afterPublisher s' n).1.letter = s.letter := by
      refine letter_eq (by rw [hafter, ← hs']; rfl) ?_
      rw [hpublisher]
      exact hopen.2
    refine ⟨_, _, .sending hheard rfl rfl rest ?_, .rest ?_ hpublished hanswers⟩
    · rw [hpublisher, hpending, pending, hletter]
      rfl
    · rw [hstore]
      exact .refl _

/-- What the handler does first is one stride. -/
theorem goes_of_handle (open_ : Accepting s.publisher) (only : s.handlings = [(c, h)])
    (free : h.isWaiting = false) (brings : Brings h.request news owed h.job)
    (pending : s.publisher.pending = []) :
    Goes s (.handle c fault) (handle s c h fault) news owed := by
  obtain ⟨request, job, isWaiting⟩ := h
  cases brings with
  | answer told =>
    exact ⟨[], [], .idle (handlings_endHandling only) pending, .answer rfl rfl rfl told.sent⟩
  | @create o next post stored failed =>
    refine goes_of_query only free pending (Storage.Store.insert_atomic o) _ failed ?_
    intro id u hok
    obtain ⟨later, hnext, hissued⟩ := Storage.Store.insert_later hok
    exact ⟨later, Or.inr ⟨_, stored id, .created hnext hissued, fun _ => post⟩⟩
  | createAll rest =>
    exact goes_of_query only free pending (Storage.Store.createAll_atomic _) _ (fun e => rest _)
      fun n u hok => ⟨Storage.Store.createAll_later hok, Or.inl (rest _)⟩
  | @describe id next rest =>
    have hreads := Storage.Store.describe_reads id
    refine goes_of_query only free pending hreads.atomic _ (fun e => rest _) fun o u hok => ?_
    rw [hreads.eq_of_on hok]
    exact ⟨.refl _, Or.inl (rest _)⟩
  | @list w next rest =>
    have hreads := Storage.Store.list_reads w
    refine goes_of_query only free pending hreads.atomic _ (fun e => rest _) fun page u hok => ?_
    rw [hreads.eq_of_on hok]
    exact ⟨.refl _, Or.inl (rest _)⟩
  | @update o next stored failed =>
    refine goes_of_query only free pending (Storage.Store.update_atomic o) _ failed ?_
    rintro ⟨⟩ u hok
    obtain ⟨later, hissued, fits, found⟩ := Storage.Store.update_later hok
    exact ⟨later, Or.inr ⟨_, stored, .updated fits found hissued, nofun⟩⟩
  | @remove id next stored failed =>
    refine goes_of_query only free pending (Storage.Store.remove_atomic id) _ failed ?_
    rintro ⟨⟩ u hok
    obtain ⟨later, hissued, fits, found, gone⟩ := Storage.Store.remove_later hok
    exact ⟨later, Or.inr ⟨_, stored, .removed fits found gone hissued, nofun⟩⟩
  | @save o next rest =>
    have honly := handlings_setHandling only { request, job := .save o next, isWaiting := true }
    have hwaits : Serves (s.setHandling c { request, job := .save o next, isWaiting := true }) [] [] :=
      .saving honly rfl rfl rest pending
    have hserves := hwaits.afterSaver (Saver.save s.saver c o)
    obtain ⟨hs, hafter, -⟩ := exists_afterSaver
      (s.setHandling c { request, job := .save o next, isWaiting := true })
      (Saver.save s.saver c o)
    refine ⟨[], [], hserves, .rest ?_ (published_saver _) (inside_saver _).answers⟩
    show Table.Later _ (afterSaver _ _).1.store.table
    rw [hafter]
    exact .refl _
  | publish rest => exact goes_of_publish open_ only pending rest
  | count rest =>
    exact ⟨_, _, .free (handlings_setHandling (s := { s with metrics := _ }) only _) free rest pending,
      .rest (.refl _) rfl rfl⟩
  | log rest =>
    exact ⟨_, _, .free (handlings_setHandling only _) free rest pending, .rest (.refl _) rfl rfl⟩

/-! ## All steps -/

/-- What an action does for the request that is being handled, while the publisher is open. -/
theorem Serves.step (hs : Serves s news owed) (open_ : Accepting s.publisher)
    (hmove : Move s a m) (inTurn : ∀ c r, a = .receive c r → s.handlings = [])
    (spares : ∀ b, a = .publisher b → b.Spares) : Goes s a m news owed := by
  cases hmove with
  | @receive c r fresh =>
    have nobody := inTurn c r rfl
    cases hs with
    | idle _ pending =>
      have honly := handlings_receive nobody c r
      exact ⟨[], [], .free honly rfl (Api.brings_jobOf r) pending, .rest (.refl _) rfl rfl⟩
    | free only => rw [only] at nobody; cases nobody
    | saving only => rw [only] at nobody; cases nobody
    | sending only => rw [only] at nobody; cases nobody
  | @handle c h fault found free =>
    cases hs with
    | idle nobody =>
      rw [State.handling?, nobody] at found
      cases found
    | free only _ brings pending =>
      obtain ⟨rfl, rfl⟩ := handler_eq only found
      exact goes_of_handle open_ only free brings pending
    | saving only waits =>
      obtain ⟨rfl, rfl⟩ := handler_eq only found
      rw [free] at waits
      cases waits
    | sending only waits =>
      obtain ⟨rfl, rfl⟩ := handler_eq only found
      rw [free] at waits
      cases waits
  | @saver b n own move =>
    refine ⟨_, _, hs.afterSaver n, .rest ?_ (published_saver _) (inside_saver _).answers⟩
    obtain ⟨hs', hafter, -⟩ := exists_afterSaver s n
    rw [hafter]
    exact .refl _
  | @publisher b n own move =>
    have hown : ∀ c e, b ≠ .send c e := by
      rintro c e rfl
      cases own
    exact goes_of_publisher hs open_ (Publisher.move_cases move) hown (spares b rfl)
  | @store why f after fault count u n busy stored =>
    refine ⟨_, _, (hs.withStore u).afterSaver n,
      .rest ?_ (published_saver _) (inside_saver _).answers⟩
    obtain ⟨hs', hafter, -⟩ := exists_afterSaver { s with store := u } n
    rw [hafter]
    exact Storage.Store.createAll_later (withFault_eq_ok stored).2
  | @refuse why f after fault e u n busy refused =>
    refine ⟨_, _, (hs.withStore u).afterSaver n,
      .rest ?_ (published_saver _) (inside_saver _).answers⟩
    obtain ⟨hs', hafter, -⟩ := exists_afterSaver { s with store := u } n
    rw [hafter]
    show Table.Later s.store.table u.table
    rw [(withFault_atomic (Storage.Store.createAll_atomic _) fault).eq_of_on refused]
    exact .refl _

end OfferService.Service
