import Mathlib.Logic.Function.Iterate
import OfferService.Proofs.Service.Patience

/-
  OfferService.Proofs.Service.Independence

  Publishing has no influence on what happens to offers but by the time it takes. Two services that
  begin with the same data and get the same requests give the same answers and end with the same
  data, whatever their publishers are and do, if what else has a say in the data, the saver and
  failures of storage, comes at the same points in both. A saver that makes use of the time for
  which a handler waits can make a difference.
-/
namespace OfferService.Service

open OfferService.Publisher (InLine)

variable {s t : State} {es : List Event}

/-! ## Agreement -/

/-- The services have the same offers and the same saver, and have counted the same requests and
    changes of offers. Their publishers may have nothing in common. -/
structure Agree (s t : State) : Prop where
  store : s.store = t.store
  saver : s.saver = t.saver
  requests : s.metrics.requests = t.metrics.requests
  created : s.metrics.created = t.metrics.created
  updated : s.metrics.updated = t.metrics.updated
  removed : s.metrics.removed = t.metrics.removed

/-- Services in which nobody is served agree if they have the same outline, and only then. -/
theorem agree_iff (nobody : s.handlings = []) (nobody' : t.handlings = []) :
    Agree s t ↔ s.outline = t.outline := by
  rw [outline_of_idle nobody, outline_of_idle nobody']
  constructor
  · rintro ⟨store, saver, requests, created, updated, removed⟩
    have htallied : s.metrics.tallied = t.metrics.tallied := by
      simp only [Metrics.tallied, requests, created, updated, removed]
    rw [store, saver, htallied]
  · intro same
    simp only [State.mk.injEq, Metrics.tallied, Metrics.mk.injEq, and_true, true_and] at same
    obtain ⟨store, saver, requests, created, updated, removed⟩ := same
    exact ⟨store, saver, requests, created, updated, removed⟩

theorem ahead_of_idle (nobody : s.handlings = []) (es : List Event) :
    ahead s es [] = { state := s.outline, answers := answers es, todo := [] } := by
  refine serve_of_idle ?_
  rw [outline_of_idle nobody]

/-- Services in which nobody is served agree, and have given the same answers, if they have the same
    prospects. -/
theorem agree_of_ahead_eq {fs : List Event} (nobody : s.handlings = []) (nobody' : t.handlings = [])
    (same : ahead s es [] = ahead t fs []) : answers es = answers fs ∧ Agree s t := by
  rw [ahead_of_idle nobody, ahead_of_idle nobody'] at same
  exact ⟨congrArg Prospect.answers same,
    (agree_iff nobody nobody').mpr (congrArg Prospect.state same)⟩

/-! ## To the end -/

/-- Nothing comes of a prospect in which nobody is served. -/
theorem iterate_advance_of_idle {p : Prospect} (nobody : p.state.handlings = []) (k : Nat) :
    Prospect.advance^[k] p = p := by
  refine Function.iterate_fixed ?_ k
  rw [Prospect.advance, nobody]

/-- Whoever waits for the saver does not turn to anything else. -/
theorem iterate_advance_of_waiting {p : Prospect} {c : Caller} {h : Handling}
    (only : p.state.handlings = [(c, h)]) (waits : h.isWaiting = true) (k : Nat) :
    Prospect.advance^[k] p = p := by
  refine Function.iterate_fixed ?_ k
  rw [Prospect.advance, only]
  simp only [Prospect.act, step_handle_of_waiting only waits]

/-- If nobody is served in the prospect of the service after `k` steps with offers, then moves of the
    handler and the publisher lead there. -/
def Finishes (k : Nat) (s : State) (before : List Event) : Prop :=
  (Prospect.advance^[k] (ahead s before [])).state.handlings = [] →
    ∃ as es t, Onward s as es t ∧ t.handlings = [] ∧
      ahead t (before ++ es) [] = Prospect.advance^[k] (ahead s before [])

/-- It is enough to know this of services that have stopped. -/
theorem Attended.finishes_of {k : Nat}
    (stopped : ∀ {t before}, Attended t → Stops t → Finishes k t before) (hs : Attended s)
    (before : List Event) : Finishes k s before := by
  intro ends
  obtain ⟨as, es, t, aside, stops⟩ := hs.exists_aside
  have hahead := aside.ahead_eq hs.single before []
  have ht := attended_of_path aside.path hs
  rw [← hahead] at ends
  obtain ⟨bs, fs, u, onward, nobody, hends⟩ := stopped ht stops ends
  refine ⟨as ++ bs, es ++ fs, u, aside.toOnward.trans onward, nobody, ?_⟩
  rw [← List.append_assoc, hends, hahead]

theorem Attended.finishes_of_stops {k : Nat} {before : List Event} (hs : Attended s)
    (stops : Stops s) : Finishes k s before := by
  induction k generalizing s before with
  | zero =>
    intro ends
    rcases stops with nobody | ⟨c, h, only, data⟩
    · exact ⟨[], [], s, .refl s, nobody, by rw [List.append_nil]; rfl⟩
    · rw [Function.iterate_zero_apply, ahead_of_only only data, outline_of_only only] at ends
      cases ends
  | succ k ih =>
    intro ends
    rcases stops with nobody | ⟨c, h, only, data⟩
    · -- There is nothing to be done any more.
      have hidle : (ahead s before []).state.handlings = [] := by
        rw [ahead_of_idle nobody, outline_of_idle nobody]
      refine ⟨[], [], s, .refl s, nobody, ?_⟩
      rw [iterate_advance_of_idle hidle, List.append_nil]
    have hsingle := hs.single
    cases hs with
    | idle nobody => rw [only] at nobody; cases nobody
    | free only' free _ line =>
      -- The handler turns to offers, and goes on until it does so again.
      rw [only] at only'
      cases only'
      have hstep : stepInTurn s (.handle c none) = some (handle s c h none) :=
        step_handle only free none
      have hmove := move_cases (step_of_stepInTurn hstep).1
      have htouches : touchesOffers s (.handle c none) = true := by
        simp [touchesOffers, handling?_of_only only, data]
      obtain ⟨silent, hact⟩ := ahead_of_data hsingle hmove htouches before []
      have hadvance := hact.trans (advance_ahead hsingle rfl htouches before []).symm
      have hnext : Attended (handle s c h none).1 :=
        attended_handle only free (hsingle.handler (handling?_of_only only)).2 line
      have hrest := hnext.finishes_of ih (before ++ (handle s c h none).2)
      rw [Function.iterate_succ_apply, ← hadvance] at ends ⊢
      obtain ⟨as, es, t, onward, nobody, hends⟩ := hrest ends
      refine ⟨_, _, t, (Onward.of_step hstep rfl silent).trans onward, nobody, ?_⟩
      rw [← List.append_assoc]
      exact hends
    | saving only' waits saves =>
      rw [only] at only'
      cases only'
      have honly : (ahead s before []).state.handlings = [(c, h)] := by
        rw [ahead_of_only only data, outline_of_only only,
          Handling.settle_of_isData data fun _ => saves]
      rw [iterate_advance_of_waiting honly waits, honly] at ends
      cases ends
    | sending only' waits job =>
      rw [only] at only'
      cases only'
      rw [job] at data
      cases data

theorem Attended.finishes (hs : Attended s) (k : Nat) (before : List Event) :
    Finishes k s before :=
  hs.finishes_of finishes_of_stops before

/-! ## Two runs -/

/-- In calm runs all that is done with offers is that the handler turns to them. -/
theorem ahead_eq_iterate {s₀ : State} {as : List Action} (hpath : Path stepInTurn s₀ as es s)
    (hs : Single s₀) (calm : ∀ a ∈ as, a.isCalm = true) : ∃ k : Nat,
    ahead s es [] = Prospect.advance^[k] (ahead s₀ [] (arrivals es)) := by
  refine ⟨(marked stepInTurn touchesOffers s₀ as).length, ?_⟩
  rw [← List.foldl_const]
  have hfold : ahead s ([] ++ es) [] = (marked stepInTurn touchesOffers s₀ as).foldl
      (fun p _ => p.advance) (ahead s₀ [] (arrivals es ++ [])) := by
    refine ahead_eq_foldl hpath hs ?_ [] []
    intro a ha t es todo ht data
    exact advance_ahead ht (calm a ha) data es todo
  rw [List.append_nil] at hfold
  exact hfold

/-- At the end of one of two runs the prospect is that of the other one, or what becomes of it as its
    handler turns to offers. -/
theorem exists_ahead_eq {s₀ s t₀ t : State} {as bs : List Action} {es fs : List Event}
    (here : Path stepInTurn s₀ as es s) (there : Path stepInTurn t₀ bs fs t) (hs : Single s₀)
    (ht : Single t₀) (same : s₀.outline = t₀.outline) (requests : arrivals es = arrivals fs)
    (ended : s.handlings = [])
    (others : marked stepInTurn touchesOffers s₀ as = marked stepInTurn touchesOffers t₀ bs ∨
      ∀ a ∈ as ++ bs, a.isCalm = true) :
    ∃ k : Nat, ahead s es [] = Prospect.advance^[k] (ahead t fs []) := by
  have hstart (todo : List (Caller × Http.Request)) : ahead s₀ [] todo = ahead t₀ [] todo := by
    rw [ahead, ahead, same]
  rcases others with hmarked | calm
  · have hfold {s₀ s : State} {as : List Action} {es : List Event}
        (hpath : Path stepInTurn s₀ as es s) (hs : Single s₀) : ahead s es [] =
        (marked stepInTurn touchesOffers s₀ as).foldl Prospect.act (ahead s₀ [] (arrivals es)) := by
      have hall := ahead_eq_foldl hpath hs (fun _ _ _ _ _ _ _ => rfl) [] []
      rw [List.append_nil] at hall
      exact hall
    refine ⟨0, ?_⟩
    rw [hfold here hs, hmarked, hstart, requests, ← hfold there ht]
    rfl
  · obtain ⟨n, hn⟩ := ahead_eq_iterate here hs fun a ha => calm a (List.mem_append_left _ ha)
    obtain ⟨k, hk⟩ := ahead_eq_iterate there ht fun a ha => calm a (List.mem_append_right _ ha)
    rw [← requests, ← hstart] at hk
    rcases Nat.le_total k n with hle | hle
    · refine ⟨n - k, ?_⟩
      rw [hn, hk, ← Function.iterate_add_apply, Nat.sub_add_cancel hle]
    · -- The run that has ended cannot be overtaken.
      have hidle : (ahead s es []).state.handlings = [] := by
        rw [ahead_of_idle ended, outline_of_idle ended]
      refine ⟨0, ?_⟩
      show ahead s es [] = ahead t fs []
      rw [hk, ← Nat.sub_add_cancel hle, Function.iterate_add_apply, ← hn,
        iterate_advance_of_idle hidle]

/-- Whatever publishers are and do, they have no influence on what happens to offers. Of two runs
    from services that agree, with the same requests one after another, one has come to its end. The
    saver and storage do the same at the same points in both, or nothing but what handlers ask of
    them. Then, if the other run has come to its end as well, it has given the same answers, and the
    services agree. If not, moves of its handler and its publisher alone lead it there, whatever the
    publisher has done before. -/
theorem publishing_never_influences_data {s₀ s t₀ t : State} {as bs : List Action}
    {es fs : List Event} (here : Path stepInTurn s₀ as es s) (there : Path stepInTurn t₀ bs fs t)
    (nobody : s₀.handlings = []) (nobody' : t₀.handlings = []) (line : InLine t₀.publisher none)
    (agree : Agree s₀ t₀) (requests : arrivals es = arrivals fs) (ended : s.handlings = [])
    (others : marked stepInTurn touchesOffers s₀ as = marked stepInTurn touchesOffers t₀ bs ∨
      ∀ a ∈ as ++ bs, a.isCalm = true) :
    (t.handlings = [] → answers es = answers fs ∧ Agree s t) ∧
      ∃ cs gs u, Onward t cs gs u ∧ u.handlings = [] ∧ answers es = answers (fs ++ gs) ∧
        Agree s u := by
  have hs : Single s₀ := .idle nobody
  have ht : Attended t := attended_of_path there (.idle nobody' line)
  obtain ⟨k, hk⟩ := exists_ahead_eq here there hs (.idle nobody')
    ((agree_iff nobody nobody').mp agree) requests ended others
  have hidle {t : State} (idle : t.handlings = []) (fs : List Event) :
      (ahead t fs []).state.handlings = [] := by
    rw [ahead_of_idle idle, outline_of_idle idle]
  refine ⟨?_, ?_⟩
  · intro idle
    rw [iterate_advance_of_idle (hidle idle fs)] at hk
    exact agree_of_ahead_eq ended idle hk
  · have ends := hidle ended es
    rw [hk] at ends
    obtain ⟨cs, gs, u, onward, idle, hends⟩ := ht.finishes k fs ends
    obtain ⟨hanswers, hagree⟩ := agree_of_ahead_eq ended idle (hk.trans hends.symm)
    exact ⟨cs, gs, u, onward, idle, hanswers, hagree⟩

/-- A run in which everybody has been served, as far as the steps of a service compute it. -/
theorem exists_served (s₀ : State) (as : List Action) (rs : List (Caller × Http.Request))
    (h : (follow stepInTurn s₀ as).map (fun m =>
      (m.1.handlings.isEmpty, (answers m.2).length, arrivals m.2)) = some (true, rs.length, rs)) :
    ∃ es s, Path stepInTurn s₀ as es s ∧ s.handlings = [] ∧ (answers es).length = rs.length ∧
      arrivals es = rs := by
  obtain ⟨⟨s, es⟩, hfollow, hm⟩ := Option.map_eq_some_iff.mp h
  simp only [Prod.mk.injEq, List.isEmpty_iff] at hm
  exact ⟨es, s, path_of_follow hfollow, hm⟩

/-- An offer is created and changed. One publisher has no place for the second message until its
    task has taken the first; the other one was closed before. That makes no difference either if
    there is a tick after each of the two changes, and the saver has one more offer to store, which
    fails at the first tick and not at the second. -/
theorem publishing_never_influences_data_slow_and_closed :
    let saver : Saver.State := { capacity := 2, groups := 2, ticker := { period := .millis 1000 } }
    let slow := Publisher.new "offers" 1
    let s₀ : State := { saver, publisher := slow }
    let t₀ : State := { saver, publisher := { slow with shutdown := true } }
    let one := "\x7b\"user_id\":1,\"team_id\":2,\"grade\":3\x7d"
    let request (method : Http.Method) (path body : String) : Http.Request :=
      { method, target := { path }, headers := [("content-type", "application/json")]
        body := body.toUTF8.toList }
    let create := request .post "/v1/offers" one
    let change := request .put "/v1/offers/1" one
    let save := request .post "/v1/offers/buffered" ("\x7b\"offers\":[" ++ one ++ "]\x7d")
    let turns (c times : Nat) : List Action := List.replicate times (.handle c none)
    let place : List Action := [.publisher .task, .publisher (.resume 1)]
    let as : List Action := .receive 0 create :: turns 0 5 ++ .receive 1 change :: turns 1 2 ++
      place ++ turns 1 2
    let bs : List Action := .receive 0 create :: turns 0 6 ++ .receive 1 change :: turns 1 5
    let saved : List Action := [.saver .init, .saver (.ticker 0), .receive 2 save, .handle 2 none,
      .saver .loop, .saver (.collect 2), .handle 2 none]
    let tick (now : Nat) (fault : Option Storage.Error) : List Action :=
      [.saver (.ticker now), .saver .loop, .storeBatch fault]
    let full := some (.sql .full)
    let as' : List Action := saved ++ .receive 0 create :: turns 0 5 ++ tick 1000 full ++
      .receive 1 change :: turns 1 2 ++ tick 2000 none ++ place ++ turns 1 2
    let bs' : List Action := saved ++ .receive 0 create :: turns 0 3 ++ tick 1000 full ++
      turns 0 3 ++ .receive 1 change :: turns 1 5 ++ tick 2000 none
    s₀.handlings = [] ∧ t₀.handlings = [] ∧ InLine t₀.publisher none ∧ Agree s₀ t₀ ∧
      (∀ a ∈ as ++ bs, a.isCalm = true) ∧
      (∃ es s fs t, Path stepInTurn s₀ as es s ∧ Path stepInTurn t₀ bs fs t ∧
        arrivals es = arrivals fs ∧ s.handlings = [] ∧ t.handlings = [] ∧
        (answers es).length = 2 ∧ answers es = answers fs ∧ Agree s t) ∧
      marked stepInTurn touchesOffers s₀ as' = marked stepInTurn touchesOffers t₀ bs' ∧
      ∃ es s fs t, Path stepInTurn s₀ as' es s ∧ Path stepInTurn t₀ bs' fs t ∧
        arrivals es = arrivals fs ∧ s.handlings = [] ∧ t.handlings = [] ∧
        (answers es).length = 3 ∧ answers es = answers fs ∧ Agree s t := by
  intro saver slow s₀ t₀ one request create change save turns place as bs saved tick full as' bs'
  have hnew := Publisher.inLine_new "offers" 1
  have line : InLine t₀.publisher none := ⟨hnew.pending, hnew.queue, nofun, nofun⟩
  have agree : Agree s₀ t₀ := ⟨rfl, rfl, rfl, rfl, rfl, rfl⟩
  have calm : ∀ a ∈ as ++ bs, a.isCalm = true := by
    have hall : (as ++ bs).all (·.isCalm) = true := by decide +kernel
    exact List.all_eq_true.mp hall
  have same : marked stepInTurn touchesOffers s₀ as' = marked stepInTurn touchesOffers t₀ bs' := by
    decide +kernel
  refine ⟨rfl, rfl, line, agree, calm, ?_, same, ?_⟩
  · obtain ⟨es, s, hrun, ended, hlength, hrs⟩ :=
      exists_served s₀ as [(0, create), (1, change)] (by decide +kernel)
    obtain ⟨fs, t, hrun', ended', -, hrs'⟩ :=
      exists_served t₀ bs [(0, create), (1, change)] (by decide +kernel)
    have requests := hrs.trans hrs'.symm
    obtain ⟨hsame, hagree⟩ := (publishing_never_influences_data hrun hrun' rfl rfl line agree
      requests ended (Or.inr calm)).1 ended'
    exact ⟨es, s, fs, t, hrun, hrun', requests, ended, ended', hlength, hsame, hagree⟩
  · obtain ⟨es, s, hrun, ended, hlength, hrs⟩ :=
      exists_served s₀ as' [(2, save), (0, create), (1, change)] (by decide +kernel)
    obtain ⟨fs, t, hrun', ended', -, hrs'⟩ :=
      exists_served t₀ bs' [(2, save), (0, create), (1, change)] (by decide +kernel)
    have requests := hrs.trans hrs'.symm
    obtain ⟨hsame, hagree⟩ := (publishing_never_influences_data hrun hrun' rfl rfl line agree
      requests ended (Or.inl same)).1 ended'
    exact ⟨es, s, fs, t, hrun, hrun', requests, ended, ended', hlength, hsame, hagree⟩

/-- Not every publisher leaves the data alone if the saver may do as it likes. One offer is with the
    saver, three are created, and all are listed. If the queue of the publisher has room there are
    three to be shown. If it has one place, and the sink takes its time with the first message, then
    the third offer is created before its handler waits for the place; meanwhile a tick comes, the
    saver has its offer stored, and four are shown. Storage never fails. -/
theorem not_every_publisher_leaves_data :
    ¬ ∀ (s₀ s t₀ t : State) (as bs : List Action) (es fs : List Event),
      Path stepInTurn s₀ as es s → Path stepInTurn t₀ bs fs t → s₀.handlings = [] →
      t₀.handlings = [] → InLine s₀.publisher none → InLine t₀.publisher none → Agree s₀ t₀ →
      arrivals es = arrivals fs → s.handlings = [] → t.handlings = [] →
      (∀ c e, .handle c (some e) ∉ as ++ bs) → (∀ e, .storeBatch (some e) ∉ as ++ bs) →
      answers es = answers fs := by
  intro hall
  let saver : Saver.State := { capacity := 4, groups := 1, ticker := { period := .millis 500 } }
  let s₀ : State := { saver, publisher := Publisher.new "offers" 256 }
  let t₀ : State := { saver, publisher := Publisher.new "offers" 1 }
  let one := "\x7b\"user_id\":1,\"team_id\":2,\"grade\":3\x7d"
  let post (path body : String) : Http.Request :=
    { method := .post, target := { path }, headers := [("content-type", "application/json")]
      body := body.toUTF8.toList }
  let save := post "/v1/offers/buffered" ("\x7b\"offers\":[" ++ one ++ "]\x7d")
  let create := post "/v1/offers" one
  let list : Http.Request :=
    { method := .get, target := { path := "/v1/offers", query := some "take=10&skip=0" } }
  let turns (c times : Nat) : List Action := List.replicate times (.handle c none)
  let saved : List Action := [.saver .init, .saver (.ticker 0), .receive 0 save, .handle 0 none,
    .saver .loop, .saver (.collect 0), .handle 0 none]
  let as : List Action := saved ++ .receive 1 create :: turns 1 5 ++
    .receive 2 create :: turns 2 5 ++ .receive 3 create :: turns 3 5 ++ .receive 4 list :: turns 4 2
  let bs : List Action := saved ++ .receive 1 create :: turns 1 5 ++ .publisher .task ::
    .receive 2 create :: turns 2 5 ++ .receive 3 create :: turns 3 2 ++
    [.saver (.ticker 500), .saver .loop, .storeBatch none] ++
    [.publisher (.answer (.ok ())), .publisher .task, .publisher (.resume 3)] ++ turns 3 3 ++
    .receive 4 list :: turns 4 2
  let rs := [(0, save), (1, create), (2, create), (3, create), (4, list)]
  obtain ⟨es, s, hrun, ended, -, hrs⟩ := exists_served s₀ as rs (by decide +kernel)
  obtain ⟨fs, t, hrun', ended', -, hrs'⟩ := exists_served t₀ bs rs (by decide +kernel)
  have hdiffer : (follow stepInTurn s₀ as).map (answers ·.2) ≠
      (follow stepInTurn t₀ bs).map (answers ·.2) := by
    decide +kernel
  rw [follow_of_path hrun, follow_of_path hrun'] at hdiffer
  have faultless : ∀ c e, .handle c (some e) ∉ as ++ bs := by
    intro c e hmem
    simp [as, bs, saved, turns] at hmem
  have stored : ∀ e, .storeBatch (some e) ∉ as ++ bs := by
    intro e hmem
    simp [as, bs, saved, turns] at hmem
  have line : InLine s₀.publisher none := Publisher.inLine_new "offers" 256
  have line' : InLine t₀.publisher none := Publisher.inLine_new "offers" 1
  have agree : Agree s₀ t₀ := ⟨rfl, rfl, rfl, rfl, rfl, rfl⟩
  have same : answers es = answers fs := hall s₀ s t₀ t as bs es fs hrun hrun' rfl rfl line line'
    agree (hrs.trans hrs'.symm) ended ended' faultless stored
  exact hdiffer (congrArg some same)

end OfferService.Service
