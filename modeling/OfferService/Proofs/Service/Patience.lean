import OfferService.Proofs.Publisher.Line
import OfferService.Proofs.Service.Foresight

/-
  OfferService.Proofs.Service.Patience

  Nobody waits for the publisher for good. Requests are handled one after another, so there is at
  most one handler that waits for a place in the queue, and a few moves of the publisher let it go
  on. From every moment of a run, then, moves of the handler and the publisher lead to one at which
  the handler has answered, or turns to offers.
-/
namespace OfferService.Service

open OfferService.Api (Heedless)
open OfferService.Http (Request)
open OfferService.Publisher (InLine Turn)

variable {s t u : State} {a : Action} {m : Moved} {c : Caller} {h : Handling} {r : Request}
  {fault : Option Storage.Error} {as bs : List Action} {es fs : List Event} {n : Publisher.Moved}
  {kind : EventKind} {id : UInt64} {next : Publisher.Verdict → Api.Job}

/-! ## Who waits for what -/

/-- A handler goes on by itself, or waits for the saver, or is in the line of the publisher. -/
inductive Attended (s : State) : Prop
  | idle (nobody : s.handlings = []) (line : InLine s.publisher none)
  | free {k j} (only : s.handlings = [(k, j)]) (free : j.isWaiting = false)
      (heedless : Heedless j.job) (line : InLine s.publisher none)
  | saving {k j} (only : s.handlings = [(k, j)]) (waits : j.isWaiting = true)
      (saves : j.job.isSave = true) (heedless : Heedless j.job) (line : InLine s.publisher none)
  | sending {k j kind id next} (only : s.handlings = [(k, j)]) (waits : j.isWaiting = true)
      (job : j.job = .publish kind id next) (heedless : Heedless j.job)
      (line : InLine s.publisher (some k))

namespace Attended

theorem single (hs : Attended s) : Single s := by
  cases hs with
  | idle nobody => exact .idle nobody
  | free only _ heedless => exact .busy only heedless
  | saving only _ _ heedless => exact .busy only heedless
  | sending only _ _ heedless => exact .busy only heedless

theorem of_eq (hs : Attended s) (handlings : t.handlings = s.handlings)
    (publisher : t.publisher = s.publisher) : Attended t := by
  cases hs with
  | idle nobody line => exact .idle (handlings.trans nobody) (publisher ▸ line)
  | free only free heedless line =>
    exact .free (handlings.trans only) free heedless (publisher ▸ line)
  | saving only waits saves heedless line =>
    exact .saving (handlings.trans only) waits saves heedless (publisher ▸ line)
  | sending only waits job heedless line =>
    exact .sending (handlings.trans only) waits job heedless (publisher ▸ line)

theorem afterSaver (hs : Attended s) (n : Saver.Moved) : Attended (afterSaver s n).1 := by
  have hline {who : Option Caller} (line : InLine s.publisher who) :
      InLine (Service.afterSaver s n).1.publisher who := by
    obtain ⟨handlings, hafter, -⟩ := exists_afterSaver s n
    rw [hafter]
    exact line
  have honly {c : Caller} {h : Handling} (only : s.handlings = [(c, h)]) :
      (Service.afterSaver s n).1.handlings = [(c, h.hear c (n.2.map .saver))] :=
    handlings_afterSaver only n
  cases hs with
  | idle nobody line => exact .idle (handlings_afterSaver_of_idle nobody n) (hline line)
  | free only free heedless line =>
    have hsame := honly only
    rw [Handling.hear_of_free free] at hsame
    exact .free hsame free heedless (hline line)
  | @saving c h only waits saves heedless line =>
    have hheedless := Handling.hear_keeps (c := c) Heedless.heeds heedless (n.2.map .saver)
    have hheard := honly only
    rcases Handling.hear_saver c h n.2 with hsame | ⟨o, next, v, -, -, htold⟩
    · rw [hsame] at hheard
      exact .saving hheard waits saves heedless (hline line)
    · rw [htold] at hheard hheedless
      exact .free hheard rfl hheedless (hline line)
  | @sending c h kind id next only waits job heedless line =>
    have hheard := honly only
    rcases Handling.hear_saver c h n.2 with hsame | ⟨o, next', v, job', -⟩
    · rw [hsame] at hheard
      exact .sending hheard waits job heedless (hline line)
    · -- It does not wait for the saver.
      rw [job] at job'
      cases job'

end Attended

/-! ## Moves of the publisher -/

theorem publisher_afterPublisher (s : State) (n : Publisher.Moved) :
    (afterPublisher s n).1.publisher = n.1 := by
  obtain ⟨handlings, hafter, -⟩ := exists_afterPublisher s n
  rw [hafter]

/-- A handler in line goes on, or stays in line. -/
theorem afterPublisher_of_turn (only : s.handlings = [(c, h)]) (waits : h.isWaiting = true)
    (job : h.job = .publish kind id next) (turn : Turn n (some c)) :
    (∃ v, (afterPublisher s n).1.handlings = [(c, { h with job := next v, isWaiting := false })] ∧
      InLine (afterPublisher s n).1.publisher none) ∨
    (afterPublisher s n).1.handlings = [(c, h)] ∧
      InLine (afterPublisher s n).1.publisher (some c) ∧ ∀ k v, .returned k v ∉ n.2 := by
  have hheard : (afterPublisher s n).1.handlings = [(c, h.hear c (n.2.map .publisher))] :=
    handlings_afterPublisher only n
  rw [publisher_afterPublisher, hheard]
  cases turn with
  | returns events silent line =>
    rw [events, Handling.hear_returned silent waits job]
    exact Or.inl ⟨_, rfl, line⟩
  | still silent line =>
    rw [Handling.hear_of_silent silent]
    exact Or.inr ⟨rfl, line, silent⟩

theorem attended_of_turn (only : s.handlings = [(c, h)]) (waits : h.isWaiting = true)
    (job : h.job = .publish kind id next) (heedless : Heedless h.job) (turn : Turn n (some c)) :
    Attended (afterPublisher s n).1 := by
  rcases afterPublisher_of_turn only waits job turn with ⟨v, honly, line⟩ | ⟨honly, line, -⟩
  · rw [job] at heedless
    cases heedless with
    | publish rest => exact .free honly rfl (rest v) line
  · exact .sending honly waits job heedless line

theorem Attended.afterPublisher {b : Publisher.Action} (hs : Attended s)
    (hstep : Publisher.step s.publisher b = some n) (own : ∀ c e, b ≠ .send c e) :
    Attended (afterPublisher s n).1 := by
  have hidle (line : InLine s.publisher none) :
      InLine (Service.afterPublisher s n).1.publisher none ∧ ∀ k v, .returned k v ∉ n.2 := by
    rw [publisher_afterPublisher]
    cases line.step hstep own with
    | still silent line => exact ⟨line, silent⟩
  have hsame {c : Caller} {h : Handling} (only : s.handlings = [(c, h)])
      (silent : ∀ k v, .returned k v ∉ n.2) :
      (Service.afterPublisher s n).1.handlings = [(c, h)] := by
    have hheard : (Service.afterPublisher s n).1.handlings =
        [(c, h.hear c (n.2.map .publisher))] := handlings_afterPublisher only n
    rw [hheard, Handling.hear_of_silent silent]
  cases hs with
  | idle nobody line => exact .idle (handlings_afterPublisher_of_idle nobody n) (hidle line).1
  | free only free heedless line =>
    obtain ⟨hline, silent⟩ := hidle line
    exact .free (hsame only silent) free heedless hline
  | saving only waits saves heedless line =>
    obtain ⟨hline, silent⟩ := hidle line
    exact .saving (hsame only silent) waits saves heedless hline
  | sending only waits job heedless line =>
    exact attended_of_turn only waits job heedless (line.step hstep own)

/-! ## All steps -/

theorem attended_handle (only : s.handlings = [(c, h)]) (free : h.isWaiting = false)
    (heedless : Heedless h.job) (line : InLine s.publisher none) :
    Attended (handle s c h fault).1 := by
  have hset {job : Api.Job} {t : State} (handlings : t.handlings = s.handlings)
      (publisher : t.publisher = s.publisher) (hj : Heedless job) :
      Attended (t.setHandling c { h with job }) :=
    .free (handlings_setHandling (handlings.trans only) _) free hj (publisher ▸ line)
  have hwaits := handlings_setHandling only { h with isWaiting := true }
  generalize hm : handle s c h fault = m
  cases handle_cases hm with
  | answer => exact .idle (handlings_endHandling only) line
  | @stored α q log next x u asks =>
    exact hset (t := { s with store := u }) rfl rfl (heedless_of_asks heedless asks _)
  | @failed α q log next e u asks =>
    exact hset (t := { s with store := u }) rfl rfl (heedless_of_asks heedless asks _)
  | save job =>
    have hsaves : h.job.isSave = true := by
      rw [job]
      rfl
    have hsaving := Attended.saving hwaits rfl hsaves heedless line
    exact hsaving.afterSaver _
  | publish job => exact attended_of_turn hwaits rfl job heedless (line.send _ _)
  | @count change next job =>
    rw [job] at heedless
    cases heedless with
    | count _ rest => exact hset (t := { s with metrics := change s.metrics }) rfl rfl rest
  | log job =>
    rw [job] at heedless
    cases heedless with
    | log rest => exact hset rfl rfl rest

theorem Move.attended (hmove : Move s a m) (hs : Attended s)
    (inTurn : ∀ c r, a = .receive c r → s.handlings = []) : Attended m.1 := by
  cases hmove with
  | @receive c r =>
    have nobody := inTurn c r rfl
    have honly := handlings_receive nobody c r
    cases hs with
    | idle _ line => exact .free honly rfl (Api.heedless_jobOf r) line
    | free only => rw [only] at nobody; cases nobody
    | saving only => rw [only] at nobody; cases nobody
    | sending only => rw [only] at nobody; cases nobody
  | @handle c h fault found free =>
    obtain ⟨honly, heedless⟩ := hs.single.handler found
    cases hs with
    | idle nobody => rw [honly] at nobody; cases nobody
    | free _ _ _ line => exact attended_handle honly free heedless line
    | saving only waits =>
      rw [honly] at only
      cases only
      rw [free] at waits
      cases waits
    | sending only waits =>
      rw [honly] at only
      cases only
      rw [free] at waits
      cases waits
  | saver => exact hs.afterSaver _
  | @publisher b n own move =>
    refine hs.afterPublisher move ?_
    rintro c e rfl
    cases own
  | @store why f after fault n u =>
    have hstored : Attended { s with store := u } := hs.of_eq rfl rfl
    exact hstored.afterSaver _
  | @refuse why f after fault e u =>
    have hrefused : Attended { s with store := u } := hs.of_eq rfl rfl
    exact hrefused.afterSaver _

theorem attended_of_path (hpath : Path stepInTurn s as es t) (hs : Attended s) : Attended t := by
  refine hpath.invariant (P := fun _ _ t => Attended t) hs ?_
  intro as es t a u new _ ht hstep
  obtain ⟨hstep', inTurn⟩ := step_of_stepInTurn hstep
  exact (move_cases hstep').attended ht inTurn

/-! ## Onward -/

/-- The way from one state to another on which no request arrives: only the handler and the
    publisher move, and storage does not fail. -/
structure Onward (s : State) (as : List Action) (es : List Event) (t : State) : Prop where
  path : Path stepInTurn s as es t
  calm : ∀ a ∈ as, a.isCalm = true
  silent : arrivals es = []

/-- The way from one state to another on which nothing is done with offers, either. -/
structure Aside (s : State) (as : List Action) (es : List Event) (t : State) : Prop
    extends Onward s as es t where
  unmarked : marked stepInTurn touchesOffers s as = []

theorem Onward.refl (s : State) : Onward s [] [] s := ⟨.refl, nofun, rfl⟩

theorem Onward.trans (h : Onward s as es t) (h' : Onward t bs fs u) :
    Onward s (as ++ bs) (es ++ fs) u := by
  refine ⟨h.path.trans h'.path, ?_, ?_⟩
  · intro a ha
    rcases List.mem_append.mp ha with ha | ha
    · exact h.calm a ha
    · exact h'.calm a ha
  · rw [arrivals_append, h.silent, h'.silent]
    rfl

theorem Onward.of_step (hstep : stepInTurn s a = some m) (calm : a.isCalm = true)
    (silent : arrivals m.2 = []) : Onward s [a] m.2 m.1 := by
  refine ⟨.single hstep, ?_, silent⟩
  intro b hb
  rw [List.mem_singleton.mp hb]
  exact calm

namespace Aside

theorem refl (s : State) : Aside s [] [] s := ⟨.refl s, rfl⟩

theorem trans (h : Aside s as es t) (h' : Aside t bs fs u) : Aside s (as ++ bs) (es ++ fs) u := by
  refine ⟨h.toOnward.trans h'.toOnward, ?_⟩
  rw [marked_append h.path, h.unmarked, h'.unmarked]
  rfl

theorem of_step (hstep : stepInTurn s a = some m) (calm : a.isCalm = true)
    (aside : touchesOffers s a = false) (silent : arrivals m.2 = []) : Aside s [a] m.2 m.1 := by
  refine ⟨.of_step hstep calm silent, ?_⟩
  rw [marked, hstep]
  simp only [aside, marked]
  rfl

theorem handle (only : s.handlings = [(c, h)]) (free : h.isWaiting = false)
    (data : h.job.isData = false) (silent : arrivals (handle s c h none).2 = []) :
    Aside s [.handle c none] (Service.handle s c h none).2 (Service.handle s c h none).1 := by
  have hstep : stepInTurn s (.handle c none) = some (Service.handle s c h none) :=
    step_handle only free none
  refine of_step hstep rfl ?_ silent
  simp [touchesOffers, handling?_of_only only, data]

theorem publisher {b : Publisher.Action} (hstep : Publisher.step s.publisher b = some n)
    (own : isOwnOfPublisher b = true) :
    Aside s [.publisher b] (afterPublisher s n).2 (afterPublisher s n).1 := by
  have hmoves : stepInTurn s (.publisher b) = some (afterPublisher s n) := by
    show (if isOwnOfPublisher b then (Publisher.step s.publisher b).map (afterPublisher s)
      else none) = _
    rw [if_pos own, hstep]
    rfl
  exact of_step hmoves rfl rfl (flatMap_map_eq_nil (fun _ => rfl) n.2)

/-- What is done aside leaves the prospect as it is. -/
theorem ahead_eq (h : Aside s as es t) (hs : Single s) (before : List Event)
    (todo : List (Caller × Request)) : ahead t (before ++ es) todo = ahead s before todo := by
  have hfold := ahead_eq_foldl h.path hs (fun _ _ _ _ _ _ _ => rfl) before todo
  rw [h.unmarked, h.silent] at hfold
  exact hfold

end Aside

/-- A handler in line goes on after a few moves of the publisher. -/
theorem aside_of_inLine (only : s.handlings = [(c, h)]) (waits : h.isWaiting = true)
    (job : h.job = .publish kind id next) (line : InLine s.publisher (some c)) :
    ∃ as es t v, Aside s as es t ∧ t.handlings = [(c, { h with job := next v, isWaiting := false })] ∧
      InLine t.publisher none := by
  -- Each move brings the moment closer at which it may look again.
  induction hdelay : s.publisher.delay using Nat.strongRecOn generalizing s with
  | ind d ih =>
    cases hready : s.publisher.isReady with
    | true =>
      obtain ⟨n, hresume, v, hreturned⟩ := line.resume hready
      have hstep : Publisher.step s.publisher (.resume c) = some n := hresume
      have hturn := line.step hstep nofun
      have haside := Aside.publisher hstep rfl
      rcases afterPublisher_of_turn only waits job hturn with ⟨v', honly, hline⟩ | ⟨-, -, silent⟩
      · exact ⟨_, _, _, v', haside, honly, hline⟩
      · exact absurd hreturned (silent c v)
    | false =>
      obtain ⟨b, n, hb, hstep, hless⟩ := line.hurry hready
      have hown : (∀ c e, b ≠ .send c e) ∧ isOwnOfPublisher b = true := by
        rcases hb with rfl | rfl <;> exact ⟨nofun, rfl⟩
      have haside := Aside.publisher hstep hown.2
      rcases afterPublisher_of_turn only waits job (line.step hstep hown.1) with
        ⟨v, honly, hline⟩ | ⟨honly, hline, -⟩
      · exact ⟨_, _, _, v, haside, honly, hline⟩
      · have hcloser : (afterPublisher s n).1.publisher.delay < d := by
          rw [publisher_afterPublisher, ← hdelay]
          exact hless
        obtain ⟨as, es, t, v, hrest, htold, hdone⟩ := ih _ hcloser honly hline rfl
        exact ⟨_, _, t, v, haside.trans hrest, htold, hdone⟩

/-- The service stops: nobody is served, or the handler turns to offers next. -/
def Stops (s : State) : Prop :=
  s.handlings = [] ∨ ∃ c h, s.handlings = [(c, h)] ∧ h.job.isData = true

theorem aside_of_free {request : Request} (job : Api.Job)
    (only : s.handlings = [(c, { request, job })]) (line : InLine s.publisher none) :
    ∃ as es t, Aside s as es t ∧ Stops t := by
  induction job generalizing s with
  | answer b =>
    exact ⟨_, _, _, Aside.handle only rfl rfl rfl, Or.inl (handlings_endHandling only)⟩
  | publish kind id next ih =>
    have hwaits := handlings_setHandling only
      { request, job := .publish kind id next, isWaiting := true }
    have hfirst := Aside.handle only rfl rfl (flatMap_map_eq_nil (fun _ => rfl) _)
    have hturn := line.send c (Event.seal { kind, id, moment := s.clock } s.publisher.topic)
    rcases afterPublisher_of_turn hwaits rfl rfl hturn with
      ⟨v, honly, hline⟩ | ⟨honly, hline, -⟩
    · obtain ⟨as, es, t, hrest, hstops⟩ := ih v honly hline
      exact ⟨_, _, t, hfirst.trans hrest, hstops⟩
    · obtain ⟨as, es, t, v, hmore, htold, hdone⟩ := aside_of_inLine honly rfl rfl hline
      obtain ⟨bs, fs, u, hrest, hstops⟩ := ih v htold hdone
      exact ⟨_, _, u, hfirst.trans (hmore.trans hrest), hstops⟩
  | count change next ih =>
    have hfirst := Aside.handle only rfl rfl rfl
    have honly := handlings_setHandling (s := { s with metrics := change s.metrics }) only
      { request, job := next }
    obtain ⟨as, es, t, hrest, hstops⟩ := ih honly line
    exact ⟨_, _, t, hfirst.trans hrest, hstops⟩
  | log es next ih =>
    have hfirst := Aside.handle only rfl rfl rfl
    have honly := handlings_setHandling only { request, job := next }
    obtain ⟨as, es, t, hrest, hstops⟩ := ih honly line
    exact ⟨_, _, t, hfirst.trans hrest, hstops⟩
  | _ => exact ⟨[], [], s, .refl s, Or.inr ⟨c, _, only, rfl⟩⟩

/-- From every moment of a run a service goes on until the handler has answered, or turns to offers,
    whatever the publisher has done before. -/
theorem Attended.exists_aside (hs : Attended s) : ∃ as es t, Aside s as es t ∧ Stops t := by
  cases hs with
  | idle nobody => exact ⟨[], [], s, .refl s, Or.inl nobody⟩
  | @free c h only free heedless line =>
    obtain ⟨request, job, isWaiting⟩ := h
    cases free
    exact aside_of_free job only line
  | saving only waits saves =>
    exact ⟨[], [], s, .refl s, Or.inr ⟨_, _, only, Api.Job.isData_of_isSave saves⟩⟩
  | sending only waits job heedless line =>
    obtain ⟨as, es, t, v, hfirst, honly, hline⟩ := aside_of_inLine only waits job line
    obtain ⟨bs, fs, u, hrest, hstops⟩ := aside_of_free _ honly hline
    exact ⟨_, _, u, hfirst.trans hrest, hstops⟩

end OfferService.Service
