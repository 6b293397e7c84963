import OfferService.Proofs.Service.Moves
import OfferService.Proofs.Storage.Rollback
import OfferService.Proofs.Storage.Table

/-
  OfferService.Proofs.Service.Books

  The counters of a service, its database and its saver tell the same story. Between the moment when
  storage changes and the moment when that is counted, the difference is what a handler owes;
  between the first batch of a flush and its end, it is what the flush has stored so far. `Books`
  balances the three, and every action keeps it. With no handler and no flush under way nothing is
  owed.
-/
namespace OfferService.Service

open OfferService.Api (Debt Owes)
open OfferService.Storage (Table)

/-! ## The books -/

/-- What handlers have counted, without bounds. -/
structure Counts where
  created : Nat := 0
  removed : Nat := 0
  updated : Nat := 0

/-- The books of a service balance: the rows are the offers that were counted, those that the saver
    has stored, and those still to be counted; and so on for marks, changes and requests. -/
structure Books (es : List Event) (s : State) (debt : Caller → Debt) (n : Counts) : Prop where
  handlers : Handlers debt s.handlings
  sound : s.store.table.Sound
  created : s.metrics.created = UInt64.ofNat n.created
  removed : s.metrics.removed = UInt64.ofNat n.removed
  updated : s.metrics.updated = UInt64.ofNat n.updated
  requests : s.metrics.requests = UInt64.ofNat (receipts es).length
  flushed : s.metrics.flushedOffers = UInt64.ofNat (Saver.tally (saverEvents es))
  rows : s.store.table.rows.length =
    n.created + (Saver.stored (saverEvents es)).length + owed Debt.rows debt s.handlings
  marks : s.store.table.removed.length = n.removed + owed Debt.marks debt s.handlings
  changes : n.updated = changes es + owed Debt.changes debt s.handlings
  underway : (receipts es).length = (answers es).length + s.handlings.length

namespace Books

variable {es new : List Event} {s t : State} {debt : Caller → Debt} {n : Counts} {c : Caller}
  {h : Handling}

/-- No handler moves, but the saver may, and have offers stored. -/
theorem keep {hs : List (Caller × Handling)} (b : Books es s debt n) (inside : Inside new)
    (kept : Kept s.handlings hs) (handlings : t.handlings = hs)
    (table : Table.Change s.store.table (Saver.stored (saverEvents new)).length 0 t.store.table)
    (metrics : Saver.Flushed s.metrics (Saver.tally (saverEvents new)) t.metrics) :
    Books (es ++ new) t debt n := by
  obtain ⟨failures, retained, hm⟩ := metrics
  have hchanges : Service.changes new = 0 := by rw [Service.changes, inside.answers]; rfl
  refine ⟨?_, table.sound, ?_, ?_, ?_, ?_, ?_, ?_, ?_, ?_, ?_⟩
  · rw [handlings]
    exact kept.handlers debt b.handlers
  · rw [hm]
    exact b.created
  · rw [hm]
    exact b.removed
  · rw [hm]
    exact b.updated
  · rw [hm, receipts_append, inside.receipts, List.append_nil]
    exact b.requests
  · rw [hm, saverEvents_append, Saver.tally_append, UInt64.ofNat_add, ← b.flushed]
  · have hrows := b.rows
    rw [handlings, kept.owed_eq, table.length, hrows, saverEvents_append, Saver.stored_append,
      List.length_append]
    omega
  · rw [handlings, kept.owed_eq, table.removed]
    exact b.marks
  · rw [handlings, kept.owed_eq, changes_append, hchanges]
    exact b.changes
  · rw [handlings, kept.length_eq, receipts_append, answers_append, inside.receipts,
      inside.answers, List.append_nil, List.append_nil]
    exact b.underway

/-- A handler goes on: what it does to the table and to the counters is what it owes from now on,
    or no longer. -/
theorem proceed {d : Debt} {h' : Handling} {n' : Counts} {added gone : Nat}
    (b : Books es s debt n) (found : s.handling? c = some h)
    (handlings : t.handlings = replace c h' s.handlings)
    (owes : Owes h'.request d h'.job) (silent : Inside new) (aside : saverEvents new = [])
    (table : Table.Change s.store.table added gone t.store.table)
    (metrics : t.metrics = { s.metrics with
      created := UInt64.ofNat n'.created
      removed := UInt64.ofNat n'.removed
      updated := UInt64.ofNat n'.updated })
    (rows : n'.created + d.rows = n.created + (debt c).rows + added)
    (marks : n'.removed + d.marks = n.removed + (debt c).marks + gone)
    (changed : n'.updated + (debt c).changes = n.updated + d.changes) :
    Books (es ++ new) t (Function.update debt c d) n' := by
  have hchanges : Service.changes new = 0 := by rw [Service.changes, silent.answers]; rfl
  have howed (f : Debt → Nat) : owed f (Function.update debt c d) t.handlings + f (debt c) =
      owed f debt s.handlings + f d := by
    rw [handlings]
    exact owed_replace f b.handlers.nodup found
  have hrows := howed Debt.rows
  have hmarks := howed Debt.marks
  have hchanged := howed Debt.changes
  refine ⟨?_, table.sound, ?_, ?_, ?_, ?_, ?_, ?_, ?_, ?_, ?_⟩
  · rw [handlings]
    exact b.handlers.replace owes
  · rw [metrics]
  · rw [metrics]
  · rw [metrics]
  · rw [metrics, receipts_append, silent.receipts, List.append_nil]
    exact b.requests
  · rw [metrics, saverEvents_append, aside, List.append_nil]
    exact b.flushed
  · have hbefore := b.rows
    rw [saverEvents_append, aside, List.append_nil, table.length]
    omega
  · have hbefore := b.marks
    rw [table.removed]
    omega
  · have hbefore := b.changes
    rw [changes_append, hchanges]
    omega
  · have hlength : t.handlings.length = s.handlings.length := by
      rw [handlings, replace, List.length_map]
    rw [hlength, receipts_append, answers_append, silent.receipts, silent.answers,
      List.append_nil, List.append_nil]
    exact b.underway

/-- The counters say what was counted. -/
theorem metrics_eq (b : Books es s debt n) : s.metrics = { s.metrics with
    created := UInt64.ofNat n.created
    removed := UInt64.ofNat n.removed
    updated := UInt64.ofNat n.updated } := by
  rw [← b.created, ← b.removed, ← b.updated]

/-- A handler goes on, and owes what it owed. -/
theorem pass {h' : Handling} (b : Books es s debt n) (found : s.handling? c = some h)
    (owes : Owes h'.request (debt c) h'.job) (inside : Inside new) (aside : saverEvents new = []) :
    Books (es ++ new) (s.setHandling c h') debt n := by
  have hsame := b.proceed (t := s.setHandling c h') found rfl owes inside aside (.refl b.sound)
    b.metrics_eq rfl rfl rfl
  rw [Function.update_eq_self] at hsame
  exact hsame

/-- A handler runs a query: if that fails the table is the same, and if not, the handler owes what
    the query has changed. -/
theorem query {α : Type} {q : Storage.Query α} {next : Except Storage.Error α → Api.Job}
    (b : Books es s debt n) (fault : Option Storage.Error) (log : α → List Log.Entry)
    (found : s.handling? c = some h) (atomic : q.Atomic)
    (failed : ∀ e, Owes h.request (debt c) (next (.error e)))
    (stored : ∀ a u, q.on s.store = (.ok a, u) → ∃ d added gone,
      Owes h.request d (next (.ok a)) ∧ Table.Change s.store.table added gone u.table ∧
        d.rows = (debt c).rows + added ∧ d.marks = (debt c).marks + gone ∧
        d.changes = (debt c).changes) :
    ∃ debt', Books (es ++ (Service.query s c h fault q log next).2)
      (Service.query s c h fault q log next).1 debt' n := by
  unfold Service.query
  rcases hon : (withFault fault q).on s.store with ⟨r, u⟩
  cases r with
  | error e =>
    rw [(withFault_atomic atomic fault).eq_of_on hon]
    exact ⟨debt, b.pass found (failed e) ⟨rfl, rfl⟩ rfl⟩
  | ok a =>
    obtain ⟨d, added, gone, owes, table, rows, marks, changed⟩ :=
      stored a u (withFault_eq_ok hon).2
    refine ⟨Function.update debt c d, b.proceed found rfl owes ⟨rfl, rfl⟩ rfl table
      b.metrics_eq ?_ ?_ ?_⟩
    · omega
    · omega
    · omega

/-- A handler runs a query that inserts no row and sets no mark. -/
theorem ask {α : Type} {q : Storage.Query α} {next : Except Storage.Error α → Api.Job}
    (b : Books es s debt n) (fault : Option Storage.Error) (found : s.handling? c = some h)
    (atomic : q.Atomic) (owes : ∀ x, Owes h.request (debt c) (next x))
    (same : ∀ a u, q.on s.store = (.ok a, u) → Table.Change s.store.table 0 0 u.table) :
    ∃ debt', Books (es ++ (Service.query s c h fault q silent next).2)
      (Service.query s c h fault q silent next).1 debt' n := by
  refine b.query fault silent found atomic (fun e => owes (.error e)) fun a u hon => ?_
  exact ⟨debt c, 0, 0, owes (.ok a), same a u hon, rfl, rfl, rfl⟩

/-- A handler answers, and is done. -/
theorem answer {a : Http.Response} (b : Books es s debt n) (found : s.handling? c = some h)
    (owes : Owes h.request (debt c) (.answer a)) :
    Books (es ++ [.answered c h.request (Api.sent h.request a)]) (s.endHandling c) debt n := by
  have hnodup := b.handlers.nodup
  have howed (f : Debt → Nat) : f (debt c) + owed f debt (s.endHandling c).handlings =
      owed f debt s.handlings := owed_remove f hnodup found
  have hrows := howed Debt.rows
  have hmarks := howed Debt.marks
  have hchanged := howed Debt.changes
  -- Nothing but thanks may be owed at the end, and then the answer gives them.
  have hthanks : Service.changes [.answered c h.request (Api.sent h.request a)] =
      (debt c).changes ∧ (debt c).rows = 0 ∧ (debt c).marks = 0 := by
    have hsent : Service.changes [.answered c h.request (Api.sent h.request a)] =
        if Api.thanks h.request a = true then 1 else 0 := by
      rw [Service.changes, ← Api.thanks_sent]
      exact List.countP_singleton
    rw [hsent]
    generalize debt c = d at owes
    cases owes with
    | answer other => rw [other]; exact ⟨rfl, rfl, rfl⟩
    | thank status => rw [status]; exact ⟨rfl, rfl, rfl⟩
  have hlength : s.handlings.length = (s.endHandling c).handlings.length + 1 := by
    have hperm := perm_of_lookup hnodup found
    exact hperm.length_eq
  have hreceipts : receipts [.answered c h.request (Api.sent h.request a)] = [] := rfl
  have hsaver : saverEvents [.answered c h.request (Api.sent h.request a)] = [] := rfl
  have hanswers : (answers [.answered c h.request (Api.sent h.request a)]).length = 1 := rfl
  refine ⟨b.handlers.remove, b.sound, b.created, b.removed, b.updated, ?_, ?_, ?_, ?_, ?_, ?_⟩
  · rw [receipts_append, hreceipts, List.append_nil]
    exact b.requests
  · rw [saverEvents_append, hsaver, List.append_nil]
    exact b.flushed
  · have hbefore := b.rows
    show s.store.table.rows.length = _
    rw [saverEvents_append, hsaver, List.append_nil]
    omega
  · have hbefore := b.marks
    show s.store.table.removed.length = _
    omega
  · have hbefore := b.changes
    rw [changes_append]
    omega
  · have hbefore := b.underway
    rw [receipts_append, answers_append, hreceipts, List.append_nil, List.length_append]
    omega

/-- A request arrives, for which nothing was done yet. -/
theorem receive {r : Http.Request} (b : Books es s debt n) (fresh : s.handling? c = none) :
    Books (es ++ (Service.receive s c r).2) (Service.receive s c r).1
      (Function.update debt c .nothing) n := by
  have hnew : (Service.receive s c r).1.handlings =
      s.handlings ++ [(c, { request := r, job := Api.jobOf r })] := rfl
  have hreceipts : receipts (Service.receive s c r).2 = [r] := rfl
  have hsaver : saverEvents (Service.receive s c r).2 = [] := rfl
  have hanswers : answers (Service.receive s c r).2 = [] := rfl
  have hchanges : Service.changes (Service.receive s c r).2 = 0 := rfl
  have howed (f : Debt → Nat) (zero : f .nothing = 0) :
      owed f (Function.update debt c .nothing) (Service.receive s c r).1.handlings =
        owed f debt s.handlings := owed_add f zero fresh
  refine ⟨b.handlers.add fresh (Api.owes_jobOf r), b.sound, b.created, b.removed, b.updated,
    ?_, ?_, ?_, ?_, ?_, ?_⟩
  · show s.metrics.requests + 1 = _
    rw [receipts_append, hreceipts, List.length_append, UInt64.ofNat_add, ← b.requests]
    rfl
  · rw [saverEvents_append, hsaver, List.append_nil]
    exact b.flushed
  · rw [howed Debt.rows rfl, saverEvents_append, hsaver, List.append_nil]
    exact b.rows
  · rw [howed Debt.marks rfl]
    exact b.marks
  · rw [howed Debt.changes rfl, changes_append, hchanges]
    exact b.changes
  · have hbefore := b.underway
    rw [receipts_append, answers_append, hreceipts, hanswers, hnew, List.append_nil,
      List.length_append, List.length_append]
    show _ + 1 = _ + (_ + 1)
    omega

/-- The counters change as the handler owes it. -/
theorem count {change : Metrics → Metrics} {next : Api.Job} (b : Books es s debt n)
    (found : s.handling? c = some h) (owes : Owes h.request (debt c) (.count change next)) :
    ∃ debt' n', Books es ({ s with metrics := change s.metrics }.setHandling c
      { h with job := next }) debt' n' := by
  generalize hd : debt c = d at owes
  have hstep (d' : Debt) (n' : Counts) (t : State)
      (handlings : t.handlings = replace c { h with job := next } s.handlings)
      (store : t.store = s.store) (howes : Owes h.request d' next)
      (metrics : t.metrics = { s.metrics with
        created := UInt64.ofNat n'.created
        removed := UInt64.ofNat n'.removed
        updated := UInt64.ofNat n'.updated })
      (rows : n'.created + d'.rows = n.created + d.rows)
      (marks : n'.removed + d'.marks = n.removed + d.marks)
      (changed : n'.updated + d.changes = n.updated + d'.changes) :
      ∃ debt' n', Books es t debt' n' := by
    have hsame : Table.Change s.store.table 0 0 t.store.table := by
      rw [store]
      exact .refl b.sound
    have hbooks : Books (es ++ []) t (Function.update debt c d') n' :=
      b.proceed found handlings howes ⟨rfl, rfl⟩ rfl hsame metrics (by rw [hd]; exact rows)
        (by rw [hd]; exact marks) (by rw [hd]; exact changed)
    rw [List.append_nil] at hbooks
    exact ⟨_, n', hbooks⟩
  -- What is counted now was owed until now; a change is owed its answer from now on.
  cases owes with
  | @countCreated count _ rest =>
    refine hstep .nothing { n with created := n.created + count } _ rfl rfl rest ?_ rfl rfl rfl
    rw [UInt64.ofNat_add, ← b.created, ← b.removed, ← b.updated]
    rfl
  | countUpdated rest =>
    refine hstep .thanks { n with updated := n.updated + 1 } _ rfl rfl rest ?_ rfl rfl rfl
    rw [UInt64.ofNat_add, ← b.created, ← b.removed, ← b.updated]
    rfl
  | countRemoved rest =>
    refine hstep .nothing { n with removed := n.removed + 1 } _ rfl rfl rest ?_ rfl rfl rfl
    rw [UInt64.ofNat_add, ← b.created, ← b.removed, ← b.updated]
    rfl

/-- The saver moves, and storage may have stored a batch for it. -/
theorem saver {m : Saver.Moved} {u : Storage.Store} (b : Books es s debt n) (said : List Event)
    (inside : Inside said) (aside : saverEvents said = [])
    (table : Table.Change s.store.table (Saver.stored m.2).length 0 u.table) :
    Books (es ++ (said ++ (afterSaver { s with store := u } m).2))
      (afterSaver { s with store := u } m).1 debt n := by
  obtain ⟨hs, hafter, hkept⟩ := exists_afterSaver { s with store := u } m
  have hevents : saverEvents (said ++ (afterSaver { s with store := u } m).2) = m.2 := by
    rw [saverEvents_append, aside, List.nil_append]
    exact saverEvents_map m.2
  have hinside : Inside (said ++ (afterSaver { s with store := u } m).2) := by
    have hrest : Inside (afterSaver { s with store := u } m).2 := inside_saver m.2
    exact ⟨by rw [receipts_append, inside.receipts, hrest.receipts]; rfl,
      by rw [answers_append, inside.answers, hrest.answers]; rfl⟩
  refine b.keep hinside hkept ?_ ?_ ?_
  · rw [hafter]
  · rw [hafter, hevents]
    exact table
  · rw [hafter, hevents]
    exact Saver.flushed_countAll s.metrics m.2

/-- The saver moves without storage. -/
theorem saverAlone {a : Saver.Action} {m : Saver.Moved} (b : Books es s debt n)
    (coherent : s.saver.Coherent) (hstep : Saver.step s.saver a = some m)
    (other : ∀ r, a ≠ .answer r) :
    Books (es ++ (afterSaver s m).2) (afterSaver s m).1 debt n := by
  have hstored : Saver.stored m.2 = [] := Saver.stored_of_step coherent hstep other
  refine b.saver (u := s.store) [] ⟨rfl, rfl⟩ rfl ?_
  rw [hstored]
  exact .refl b.sound

theorem publisher (b : Books es s debt n) (m : Publisher.Moved) :
    Books (es ++ (afterPublisher s m).2) (afterPublisher s m).1 debt n := by
  obtain ⟨hs, hafter, hkept⟩ := exists_afterPublisher s m
  have hevents : saverEvents (afterPublisher s m).2 = [] := saverEvents_publisher m.2
  refine b.keep (inside_publisher m.2) hkept ?_ ?_ ?_
  · rw [hafter]
  · rw [hafter, hevents]
    exact .refl b.sound
  · rw [hafter, hevents]
    exact .none _

end Books

/-! ## One action -/

namespace Books

variable {es new : List Event} {s t : State} {debt : Caller → Debt} {n : Counts} {c : Caller}
  {h : Handling}

/-- Whatever a handler does first, the books balance after it. -/
theorem handle (b : Books es s debt n) (coherent : s.saver.Coherent)
    (found : s.handling? c = some h) (fault : Option Storage.Error) :
    ∃ debt' n', Books (es ++ (Service.handle s c h fault).2) (Service.handle s c h fault).1
      debt' n' := by
  have howes := b.handlers.owes_of_lookup found
  -- A handler that begins to wait for the saver or the publisher owes what it owed.
  have hwaits : Books es (s.setHandling c { h with isWaiting := true }) debt n := by
    have hbooks : Books (es ++ []) (s.setHandling c { h with isWaiting := true }) debt n :=
      b.pass found howes ⟨rfl, rfl⟩ rfl
    rw [List.append_nil] at hbooks
    exact hbooks
  unfold Service.handle
  -- What is owed is known from the first thing that is left to do, so it is kept in a variable.
  generalize hd : debt c = d at howes
  split
  · rename_i a hjob
    rw [hjob, ← hd] at howes
    exact ⟨debt, n, b.answer found howes⟩
  · rename_i o next hjob
    rw [hjob] at howes
    cases howes with
    | create stored failed =>
      obtain ⟨debt', hbooks⟩ := b.query fault (Storage.Store.createdLog o) found
        (Storage.Store.insert_atomic o) (by rw [hd]; exact failed) fun id u hon =>
          ⟨.created 1, 1, 0, stored id, Storage.Store.insert_change b.sound hon,
            by rw [hd]; exact ⟨rfl, rfl, rfl⟩⟩
      exact ⟨debt', n, hbooks⟩
  · rename_i os next hjob
    rw [hjob] at howes
    cases howes with
    | createAll stored failed =>
      obtain ⟨debt', hbooks⟩ := b.query fault Storage.Store.batchLog found
        (Storage.Store.createAll_atomic os) (by rw [hd]; exact failed) fun count u hon =>
          ⟨.created os.length, os.length, 0, stored count,
            (Storage.Store.createAll_change b.sound hon).1,
            by rw [hd]; exact ⟨(Nat.zero_add _).symm, rfl, rfl⟩⟩
      exact ⟨debt', n, hbooks⟩
  · rename_i id next hjob
    rw [hjob] at howes
    cases howes with
    | describe rest =>
      have hreads := Storage.Store.describe_reads id
      obtain ⟨debt', hbooks⟩ := b.ask fault found hreads.atomic (by rw [hd]; exact rest)
        fun _ _ hon => Storage.Store.reads_change hreads b.sound hon
      exact ⟨debt', n, hbooks⟩
  · rename_i w next hjob
    rw [hjob] at howes
    cases howes with
    | list rest =>
      have hreads := Storage.Store.list_reads w
      obtain ⟨debt', hbooks⟩ := b.ask fault found hreads.atomic (by rw [hd]; exact rest)
        fun _ _ hon => Storage.Store.reads_change hreads b.sound hon
      exact ⟨debt', n, hbooks⟩
  · rename_i o next hjob
    rw [hjob] at howes
    cases howes with
    | update rest =>
      obtain ⟨debt', hbooks⟩ := b.ask fault found (Storage.Store.update_atomic o)
        (by rw [hd]; exact rest) fun _ _ hon => Storage.Store.update_change b.sound hon
      exact ⟨debt', n, hbooks⟩
  · rename_i id next hjob
    rw [hjob] at howes
    cases howes with
    | remove done failed =>
      obtain ⟨debt', hbooks⟩ := b.query fault silent found
        (Storage.Store.remove_atomic id) (by rw [hd]; exact failed)
        fun _ u hon =>
          ⟨.removed, 0, 1, done, Storage.Store.remove_change b.sound hon,
            by rw [hd]; exact ⟨rfl, rfl, rfl⟩⟩
      exact ⟨debt', n, hbooks⟩
  · rename_i o next hjob
    exact ⟨debt, n, hwaits.saverAlone (a := .save c o) coherent rfl nofun⟩
  · exact ⟨debt, n, hwaits.publisher _⟩
  · rename_i change next hjob
    rw [hjob, ← hd] at howes
    rw [List.append_nil]
    exact b.count found howes
  · rename_i logged next hjob
    rw [hjob] at howes
    cases howes with
    | log rest => exact ⟨debt, n, b.pass found (by rw [hd]; exact rest) ⟨rfl, rfl⟩ rfl⟩

/-- Every action keeps the balance. -/
theorem step {a : Action} {m : Moved} (b : Books es s debt n) (coherent : s.saver.Coherent)
    (h : Move s a m) : ∃ debt' n', Books (es ++ m.2) m.1 debt' n' := by
  cases h with
  | receive fresh => exact ⟨_, n, b.receive fresh⟩
  | handle found free => exact b.handle coherent found _
  | saver own move =>
    refine ⟨debt, n, b.saverAlone coherent move ?_⟩
    rintro r rfl
    cases own
  | publisher own move => exact ⟨debt, n, b.publisher _⟩
  | @store why f after fault count u m busy stored move =>
    refine ⟨debt, n, b.saver [.logged (Storage.Store.batchLog count)] ⟨rfl, rfl⟩ rfl ?_⟩
    rw [Saver.stored_of_answer busy move]
    exact (Storage.Store.createAll_change b.sound (withFault_eq_ok stored).2).1
  | @refuse why f after fault e u m busy refused move =>
    -- Nothing of the batch is stored, and the saver does not take it for stored.
    refine ⟨debt, n, b.saver [] ⟨rfl, rfl⟩ rfl ?_⟩
    have hatomic := withFault_atomic (Storage.Store.createAll_atomic f.current) fault
    rw [Saver.stored_of_answer busy move, hatomic.eq_of_on refused]
    exact .refl b.sound

end Books

end OfferService.Service
