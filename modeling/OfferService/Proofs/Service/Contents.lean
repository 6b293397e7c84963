import OfferService.Proofs.Service.Faults
import OfferService.Proofs.Service.Readings
import OfferService.Proofs.Service.Vouched

/-
  OfferService.Proofs.Service.Contents

  What the database of a service holds. A run of the service is a history of storage, so each row
  reflects the last write of its id; and all that is written some request has given, whose fields
  were checked. Storage refuses numbers that are too large, and requests are refused that name no
  user or no team: neither alone keeps the rows in order.
-/
namespace OfferService.Service

open OfferService.Api (Route offerId)
open OfferService.Storage (Row maxColumn)

variable {s₀ s : State} {as : List Action} {es : List Event}

/-! ## What was written -/

/-- All that was written in the course of some actions: offers, each under its id. -/
def written (s : State) (as : List Action) : List (UInt64 × Offer) :=
  Storage.writes s.store (history s as)

/-- The offer that was written last under an id. -/
def lastWritten (s : State) (as : List Action) (id : UInt64) : Option Offer :=
  (entries id (written s as)).getLast?

/-- All that was written some request has given. -/
theorem Fresh.given_of_mem_written (fresh : Fresh s₀) (hpath : Path step s₀ as es s)
    {p : UInt64 × Offer} (h : p ∈ written s₀ as) : Given es p.2 := by
  obtain ⟨op, hop, ho⟩ := Storage.exists_mem_offers h
  exact (fresh.isGiven hpath hop).2 _ ho

/-- The database reflects what was written. -/
theorem Fresh.reflects (fresh : Fresh s₀) (hpath : Path step s₀ as es s) :
    Storage.Reflects s.store.table (written s₀ as) := by
  rw [store_of_path hpath]
  exact Storage.reflects_of_empty fresh.table fun op hop => (fresh.isGiven hpath hop).1

/-! ## What rows hold -/

/-- A row as it is to be: it has an id, a user and a team, and numbers that a column holds. -/
structure WellFormed (r : Row) : Prop where
  names : ∀ n ∈ [r.id, r.userId, r.teamId], 1 ≤ n.toInt ∧ n.toInt ≤ maxColumn
  grade : 0 ≤ r.grade.toInt ∧ r.grade.toInt ≤ maxColumn

theorem Fresh.wellFormed (fresh : Fresh s₀) (hpath : Path step s₀ as es s) {r : Row}
    (hr : r ∈ s.store.table.rows) : WellFormed r := by
  -- Storage bounds the numbers from above, and the check of the request from below.
  obtain ⟨w, hlast, ⟨userFits, teamFits, gradeFits⟩, user, team, grade⟩ :=
    (fresh.reflects hpath).numbers hr
  obtain ⟨_, -, gives⟩ :=
    fresh.given_of_mem_written hpath (mem_of_mem_entries (List.mem_of_getLast? hlast))
  obtain ⟨hasUser, hasTeam⟩ : w.userId ≠ 0 ∧ w.teamId ≠ 0 := gives.checked
  have hid := (fresh.reflects hpath r hr).1
  have hlt := r.id.toInt_lt
  have hpos {n : UInt64} (h : n ≠ 0) : 1 ≤ n.toNat := by
    have hne : n.toNat ≠ 0 := fun heq => h (UInt64.toNat_inj.mp heq)
    omega
  have hmax : (maxColumn : Int) = 2 ^ 63 - 1 := rfl
  refine ⟨?_, by omega⟩
  simp only [List.forall_mem_cons]
  refine ⟨by omega, ?_, ?_, nofun⟩
  · have := hpos hasUser
    omega
  · have := hpos hasTeam
    omega

/-! ## What is shown -/

/-- In every run of a service that begins with an empty database, whose requests, handlers and saver
    move in any order while storage fails whatever it likes: the database is what the history of the
    run leaves, and all that was written some request has given, alone, with others, by way of the
    saver or as a change. Every row has an id, a user and a team, and numbers that a column holds;
    what the saver has not stored yet has a user and a team, but neither an id nor a mark. A request
    to show an offer that arrives now, and is answered with success later, shows the id of its path
    and the user, team and grade that were written last under that id, as of some moment between its
    arrival and its answer. -/
theorem stored_offers_are_as_given (fresh : Fresh s₀) (hrun : Path step s₀ as es s) :
    s.store = Storage.after s₀.store (history s₀ as) ∧
    (∀ p ∈ written s₀ as, Given es p.2) ∧
    (∀ r ∈ s.store.table.rows, WellFormed r) ∧
    (∀ o ∈ s.saver.loop.unstored ++ s.saver.buffer,
      o.id = 0 ∧ o.userId ≠ 0 ∧ o.teamId ≠ 0 ∧ o.isDeleted = false) ∧
    ∀ c r segment s₁ new₁ later es' t a u new b, r.method = .get →
      Route.ofPath r.target.path = some (.offer segment) →
      step s (.receive c r) = some (s₁, new₁) → Path step s₁ later es' t →
      (∀ r b, .answered c r b ∉ es') → step t a = some (u, new) → .answered c r b ∈ new →
      b.status = 200 →
      ∃ id w before after, offerId segment = .ok id ∧ later = before ++ after ∧
        lastWritten s₀ (as ++ .receive c r :: before) id = some w ∧
        b = .json 200 (.object [("offer", .object [("id", .natural id.toNat),
          ("user_id", .natural w.userId.toNat), ("team_id", .natural w.teamId.toNat),
          ("grade", .natural w.grade.toNat)])]) := by
  refine ⟨store_of_path hrun, fun p hp => fresh.given_of_mem_written hrun hp,
    fun r hr => fresh.wellFormed hrun hr, ?_, ?_⟩
  · intro o ho
    obtain ⟨_, -, hands⟩ := fresh.entrusted hrun ho
    exact hands.fresh
  · intro c r segment s₁ new₁ later es' t a u new b get path arrive hpath unanswered hend hanswer ok
    obtain ⟨id, o, before, after, old, v, named, cut, hither, said, hb⟩ :=
      exists_said get path arrive hpath unanswered hend hanswer ok
    -- Storage was asked in a state of the whole run, from its beginning.
    have hwhole := hrun.trans ((Path.single arrive).trans hither)
    obtain ⟨w, hlast, ho⟩ :=
      (fresh.reflects hwhole).describe (Storage.Store.ready_of_describe said) said
    rw [ho] at hb
    exact ⟨id, w, before, after, named, cut, hlast, hb⟩

/-- One offer is created, and two are handed to the saver, which stores the first and is refused the
    second, so keeps it; while a caller waits to be shown the stored one, another changes it. -/
theorem stored_offers_are_as_given_changed_offer :
    let saver : Saver.State := { capacity := 2, groups := 2, ticker := { period := .millis 1000 } }
    let s₀ : State := { saver, publisher := Publisher.new "offers" 4 }
    let offer (user : String) := "\x7b\"user_id\":" ++ user ++ ",\"team_id\":2,\"grade\":3\x7d"
    let two := "\x7b\"offers\":[" ++ offer "4" ++ "," ++ offer "5" ++ "]\x7d"
    let request (method : Http.Method) (path body : String) : Http.Request :=
      { method, target := { path }, headers := [("content-type", "application/json")]
        body := body.toUTF8.toList }
    let push : List Action := [.handle 1 none, .saver .loop, .saver (.collect 1)]
    let as : List Action := [.saver .init, .receive 0 (request .post "/v1/offers" (offer "1"))] ++
      List.replicate 5 (.handle 0 none) ++
      [.receive 1 (request .post "/v1/offers/buffered" two)] ++ push ++ push ++
      [.storeBatch none, .storeBatch (some .zeroPageSize)]
    let get := request .get "/v1/offers/2" ""
    let later : List Action :=
      [.receive 3 (request .put "/v1/offers/2" (offer "7")), .handle 3 none, .handle 2 none]
    let b := showing { id := 2, userId := 7, teamId := 2, grade := 3 }
    Fresh s₀ ∧ ∃ es s, Path step s₀ as es s ∧ s.store.table.rows.length = 2 ∧
      s.saver.buffer = [.fresh 5 2 3] ∧ (∀ r ∈ s.store.table.rows, WellFormed r) ∧
      (∀ o ∈ s.saver.buffer, o.id = 0 ∧ o.userId ≠ 0 ∧ o.teamId ≠ 0 ∧ o.isDeleted = false) ∧
      ∃ s₁ new₁ es' t u new, step s (.receive 2 get) = some (s₁, new₁) ∧ Path step s₁ later es' t ∧
        step t (.handle 2 none) = some (u, new) ∧ .answered 2 get b ∈ new ∧
        ∃ w before after, later = before ++ after ∧
          lastWritten s₀ (as ++ .receive 2 get :: before) 2 = some w ∧
          b = .json 200 (.object [("offer", .object [("id", .natural 2),
            ("user_id", .natural w.userId.toNat), ("team_id", .natural w.teamId.toNat),
            ("grade", .natural w.grade.toNat)])]) := by
  intro saver s₀ offer two request push as get later b
  have fresh : Fresh s₀ := ⟨rfl, rfl, rfl, 2, 2, _, saver, [], [], rfl, .refl, rfl⟩
  obtain ⟨es, s, new₁, s₁, es', t, new, u, hrun, -, arrive, hpath, unanswered, hend, hanswer, -⟩ :=
    exists_run_of_follow s₀ as 2 get later b true (by decide +kernel)
  have hcontents : (follow step s₀ as).map (fun m => (m.1.store.table.rows.length,
      m.1.saver.buffer)) = some (2, [.fresh 5 2 3]) := by
    decide +kernel
  rw [follow_of_path hrun] at hcontents
  obtain ⟨hrows, hbuffer⟩ := Prod.mk.inj (Option.some.inj hcontents)
  obtain ⟨-, -, hwell, hkept, hshown⟩ := stored_offers_are_as_given fresh hrun
  obtain ⟨id, w, before, after, named, cut, hlast, hb⟩ := hshown 2 get "2" s₁ new₁ later es' t
    (.handle 2 none) u new b rfl (by decide +kernel) arrive hpath (unanswered · ·) hend hanswer rfl
  have hid : offerId "2" = .ok 2 := by
    decide +kernel
  rw [hid] at named
  cases named
  exact ⟨fresh, es, s, hrun, hrows, hbuffer, hwell,
    fun o ho => hkept o (List.mem_append_right _ ho), s₁, new₁, es', t, u, new, arrive, hpath, hend,
    hanswer, w, before, after, cut, hlast, hb⟩

end OfferService.Service
