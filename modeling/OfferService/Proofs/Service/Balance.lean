import OfferService.Proofs.Service.Books

/-
  OfferService.Proofs.Service.Balance

  What the books of a service come to. When no handler and no flush is under way nothing is owed and
  nothing half stored, and the counters tell the contents of the database; when the saver has
  closed, the report tells of every offer that the saver had taken.
-/
namespace OfferService.Service

open OfferService.Api (Debt)

/-! ## Beginnings -/

/-- A service that was just brought up: its database is empty, nothing was counted, no request is
    being handled, and its saver was built with any settings and may have been started since, but
    nobody has handed it an offer. -/
structure Fresh (s : State) : Prop where
  table : s.store.table = {}
  metrics : s.metrics = {}
  handlings : s.handlings = []
  saver : ∃ capacity groups ticker built as es, Saver.new capacity groups ticker = .ok built ∧
    Path Saver.step built as es s.saver ∧ Saver.saves as = []

section

variable {s₀ s : State} {as : List Action} {es : List Event} {debt : Caller → Debt} {n : Counts}

/-- The books of a service that was just brought up are empty. -/
theorem Fresh.books (fresh : Fresh s₀) : Books [] s₀ (fun _ => .nothing) {} := by
  have hhandlers : Handlers (fun _ => .nothing) s₀.handlings := by
    rw [fresh.handlings]
    exact ⟨.nil, nofun⟩
  have howed (f : Debt → Nat) : owed f (fun _ => .nothing) s₀.handlings = 0 := by
    rw [fresh.handlings]
    rfl
  have hrows : s₀.store.table.rows = [] := by rw [fresh.table]; rfl
  refine ⟨hhandlers, ?_, ?_, ?_, ?_, ?_, ?_, ?_, ?_, ?_, ?_⟩
  · rw [fresh.table]
    exact Storage.Table.sound_empty
  · rw [fresh.metrics]; rfl
  · rw [fresh.metrics]; rfl
  · rw [fresh.metrics]; rfl
  · rw [fresh.metrics]; rfl
  · rw [fresh.metrics]; rfl
  · rw [howed, hrows]; rfl
  · rw [howed, Storage.Table.removed, hrows]; rfl
  · rw [howed]; rfl
  · rw [fresh.handlings]; rfl

/-- What is known of the saver after a run: all that was pushed, stored and told by flushes is of
    this run. -/
structure SaverRun (es : List Event) (s : State) : Prop where
  coherent : s.saver.Coherent
  stored : (Saver.stored (saverEvents es)).length =
    Saver.tally (saverEvents es) + s.saver.loop.underway
  closed : ∀ c, .closeReturned c ∈ saverEvents es →
    (Saver.pushed (saverEvents es)).length = Saver.tally (saverEvents es) + s.saver.shown

theorem Fresh.saverRun (fresh : Fresh s₀) (h : Path step s₀ as es s) : SaverRun es s := by
  obtain ⟨capacity, groups, ticker, built, before, said, hnew, hbefore, unused⟩ := fresh.saver
  obtain ⟨bs, hlater⟩ := exists_saver_run h
  have hrun := hbefore.trans hlater
  -- The laws of the saver are about its runs from the beginning, and until this one began it had
  -- done nothing that counts.
  obtain ⟨hpushed, hstored, hflushes, -⟩ := Saver.vacant_of_unused hbefore hnew unused
  have htally : Saver.tally said = 0 := by rw [Saver.tally, hflushes]; rfl
  refine ⟨Saver.coherent_of_path hrun (Saver.coherent_of_new hnew), ?_, ?_⟩
  · have hlength := Saver.stored_length_of_path hrun hnew
    rw [Saver.stored_append, hstored, List.nil_append, Saver.tally_append, htally,
      Nat.zero_add] at hlength
    exact hlength
  · intro c returned
    have hlength := Saver.pushed_length_of_closeReturned hrun hnew
      (List.mem_append_right said returned)
    rw [Saver.pushed_append, hpushed, List.nil_append, Saver.tally_append, htally,
      Nat.zero_add] at hlength
    exact hlength

/-- The books balance in every state of a run. -/
theorem Fresh.books_of_path (fresh : Fresh s₀) (h : Path step s₀ as es s) :
    ∃ debt n, Books es s debt n := by
  refine h.invariant (P := fun _ es s => ∃ debt n, Books es s debt n) ⟨_, _, fresh.books⟩ ?_
  rintro as es t a u new hpath ⟨debt, n, hbooks⟩ hstep
  exact hbooks.step (fresh.saverRun hpath).coherent (move_cases hstep)

/-! ## What the counters tell -/

/-- What the database holds bounds the counters that tell of it, so these never run over. -/
theorem Books.rows_lt (b : Books es s debt n) :
    n.created + (Saver.stored (saverEvents es)).length < UInt64.size := by
  have hrows := b.rows
  have hlt := b.sound.length_rows_lt
  omega

theorem Books.created_toNat (b : Books es s debt n) : s.metrics.created.toNat = n.created := by
  have hlt := b.rows_lt
  rw [b.created]
  exact UInt64.toNat_ofNat_of_lt' (by omega)

theorem Books.flushed_toNat (b : Books es s debt n) (run : SaverRun es s) :
    s.metrics.flushedOffers.toNat = Saver.tally (saverEvents es) := by
  have hlt := b.rows_lt
  have hstored := run.stored
  rw [b.flushed]
  exact UInt64.toNat_ofNat_of_lt' (by omega)

theorem Books.removed_toNat (b : Books es s debt n) : s.metrics.removed.toNat = n.removed := by
  have hmarks := b.marks
  have hlive := b.sound.length_live
  have hlt := b.sound.length_rows_lt
  rw [b.removed]
  exact UInt64.toNat_ofNat_of_lt' (by omega)

/-- The counters tell the contents of the database, and which requests were answered; those that
    are not bounded by it start again from zero when they run over. -/
structure Balanced (es : List Event) (s : State) : Prop where
  rows : s.store.table.rows.length = s.metrics.created.toNat + s.metrics.flushedOffers.toNat
  removed : (s.store.table.rows.filter fun r => r.isDeleted == 1).length = s.metrics.removed.toNat
  live : s.store.table.live.length + s.metrics.removed.toNat =
    s.metrics.created.toNat + s.metrics.flushedOffers.toNat
  totalItems : ∀ w page info t, (Storage.Store.list w).on s.store = (.ok (page, info), t) →
    info.totalItems.toNat + s.metrics.removed.toNat =
      s.metrics.created.toNat + s.metrics.flushedOffers.toNat
  updated : s.metrics.updated = UInt64.ofNat (changes es)
  requests : s.metrics.requests = UInt64.ofNat (answers es).length

theorem State.isQuiet_eq_true (h : s.isQuiet = true) :
    s.handlings = [] ∧ s.saver.loop.underway = 0 := by
  unfold State.isQuiet at h
  obtain ⟨hhandlings, hloop⟩ := Bool.and_eq_true_iff.mp h
  refine ⟨List.isEmpty_iff.mp hhandlings, ?_⟩
  cases hsaver : s.saver.loop with
  | flushing why f after => rw [hsaver] at hloop; cases hloop
  | _ => rfl

theorem Books.balanced (b : Books es s debt n) (run : SaverRun es s) (quiet : s.isQuiet = true) :
    Balanced es s := by
  obtain ⟨hhandlings, hunderway⟩ := State.isQuiet_eq_true quiet
  have howed (f : Debt → Nat) : owed f debt s.handlings = 0 := by
    rw [hhandlings]
    rfl
  have hrows := b.rows
  have hmarks := b.marks
  have hchanges := b.changes
  have hanswers := b.underway
  have hstored := run.stored
  have hlive := b.sound.length_live
  rw [howed] at hrows hmarks hchanges
  rw [hhandlings] at hanswers
  refine ⟨?_, ?_, ?_, ?_, ?_, ?_⟩
  · rw [b.created_toNat, b.flushed_toNat run]
    omega
  · rw [b.removed_toNat]
    exact hmarks
  · rw [b.created_toNat, b.removed_toNat, b.flushed_toNat run]
    omega
  · intro w page info t hok
    have htotal : info.totalItems.toNat = s.store.table.live.length := by
      have hlt := b.sound.length_rows_lt
      rw [Storage.Store.list_totalItems hok]
      exact UInt64.toNat_ofNat_of_lt' (by omega)
    rw [htotal, b.created_toNat, b.removed_toNat, b.flushed_toNat run]
    omega
  · rw [b.updated, hchanges]
    rfl
  · rw [b.requests, hanswers]
    rfl

/-- A service that begins with an empty database, in any run: requests arrive, handlers, saver and
    publisher move in any order, and storage fails whatever it likes of what handlers and the saver
    ask for. Whenever no handler and no flush is under way, the rows are those that were counted as
    created and as flushed, the marked rows those counted as removed, a list reports the created and
    flushed less the removed, and as many changes and requests are counted as changes were answered
    so and requests answered. Once a call to close the saver has returned, the report tells of every
    offer that the saver took: it is flushed or unflushed. -/
theorem books_balance (fresh : Fresh s₀) (h : Path step s₀ as es s) :
    (s.isQuiet = true → Balanced es s) ∧
      ∀ c, .closeReturned c ∈ saverEvents es →
        (Saver.pushed (saverEvents es)).length = s.report.flushed.toNat + s.report.unflushed := by
  obtain ⟨debt, n, hbooks⟩ := fresh.books_of_path h
  have hrun := fresh.saverRun h
  refine ⟨hbooks.balanced hrun, ?_⟩
  intro c returned
  show _ = s.metrics.flushedOffers.toNat + s.saver.shown
  rw [hbooks.flushed_toNat hrun]
  exact hrun.closed c returned

end

/-- One offer is created, two are handed to the saver, which stores the first and is refused the
    second; the first offer is changed and the second removed, and the saver closes. -/
theorem books_balance_second_batch_refused :
    let saver : Saver.State := { capacity := 2, groups := 2, ticker := { period := .millis 1000 } }
    let s₀ : State := { saver, publisher := Publisher.new "offers" 4 }
    let one := "\x7b\"user_id\":1,\"team_id\":2,\"grade\":3\x7d"
    let two := "\x7b\"offers\":[" ++ one ++ "," ++ one ++ "]\x7d"
    let request (method : Http.Method) (path body : String) : Http.Request :=
      { method, target := { path }, headers := [("content-type", "application/json")]
        body := body.toUTF8.toList }
    let handle (c : Caller) (times : Nat) : List Action := List.replicate times (.handle c none)
    let as : List Action := [.saver .init, .receive 0 (request .post "/v1/offers" one)] ++
      handle 0 5 ++ [.receive 1 (request .post "/v1/offers/buffered" two)] ++
      handle 1 1 ++ [.saver .loop, .saver (.collect 1)] ++
      handle 1 1 ++ [.saver .loop, .saver (.collect 1)] ++ handle 1 1 ++
      [.storeBatch none, .storeBatch (some .zeroPageSize)] ++
      [.receive 2 (request .put "/v1/offers/1" one)] ++ handle 2 4 ++
      [.receive 3 (request .delete "/v1/offers/2" "")] ++ handle 3 4 ++
      [.saver (.beginClose 9), .saver .loop, .saver .loop, .storeBatch (some .zeroPageSize),
        .saver (.resumeClose 9), .saver (.ticker 0), .saver (.ticker 0), .saver (.resumeClose 9)]
    Fresh s₀ ∧ ∃ es s, Path step s₀ as es s ∧ s.isQuiet = true ∧
      s.metrics.toList = [4, 1, 1, 1, 1, 2, 1] ∧ .closeReturned 9 ∈ saverEvents es ∧
      Balanced es s ∧
      (Saver.pushed (saverEvents es)).length = s.report.flushed.toNat + s.report.unflushed := by
  intro saver s₀ one two request handle as
  have fresh : Fresh s₀ := ⟨rfl, rfl, rfl, 2, 2, _, saver, [], [], rfl, .refl, rfl⟩
  have hend : (follow step s₀ as).map (fun m => (m.1.isQuiet, m.1.metrics.toList,
      decide (.closeReturned 9 ∈ saverEvents m.2))) = some (true, [4, 1, 1, 1, 1, 2, 1], true) := by
    decide +kernel
  obtain ⟨⟨s, es⟩, hfollow, hm⟩ := Option.map_eq_some_iff.mp hend
  simp only [Prod.mk.injEq, decide_eq_true_eq] at hm
  obtain ⟨quiet, hmetrics, returned⟩ := hm
  have hrun := path_of_follow hfollow
  obtain ⟨hbalanced, hreport⟩ := books_balance fresh hrun
  exact ⟨fresh, es, s, hrun, quiet, hmetrics, returned, hbalanced quiet, hreport 9 returned⟩

end OfferService.Service
