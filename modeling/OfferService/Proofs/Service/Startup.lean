import OfferService.Proofs.Schedule
import OfferService.Proofs.Service.Balance
import OfferService.Service.Startup

/-
  OfferService.Proofs.Service.Startup

  How a service comes up. A session moves a service by actions of its own, one task after another,
  until all tasks wait; so what each of these actions keeps holds after that too. Without a request
  they leave a service fresh, and one that comes up on an empty database is fresh.
-/
namespace OfferService.Service

/-! ## Sessions -/

/-- One action leads from one state to another, and it is not the arrival of a request. -/
def GoesOn (s t : State) : Prop :=
  ∃ a new, step s a = some (t, new) ∧ ∀ c r, a ≠ .receive c r

namespace World

variable {now : Nat} {w w' : World}

theorem note_service (now : Nat) (w : World) (e : Event) : (note now w e).service = w.service := by
  unfold note
  split <;> rfl

theorem act?_goesOn {a : Action} (h : w.act? now a = some w') (own : ∀ c r, a ≠ .receive c r) :
    GoesOn w.service w'.service := by
  obtain ⟨⟨t, new⟩, hstep, rfl⟩ := Option.map_eq_some_iff.mp h
  have hnotes (es : List Event) (v : World) : (es.foldl (note now) v).service = v.service := by
    induction es generalizing v with
    | nil => rfl
    | cons e es ih => rw [List.foldl_cons, ih, note_service]
  rw [hnotes]
  exact ⟨a, new, hstep, own⟩

theorem batch?_goesOn {a : Option Storage.Error → Action} (h : w.batch? now a = some w')
    (own : ∀ fault c r, a fault ≠ .receive c r) : GoesOn w.service w'.service := by
  unfold batch? at h
  simp only [] at h
  split at h
  · have hsame := act?_goesOn h (own none)
    exact hsame
  · have hsame := act?_goesOn h (own _)
    exact hsame

theorem moveHandler_goesOn {c : Caller} (h : w.moveHandler now c = some w') :
    GoesOn w.service w'.service := by
  unfold moveHandler at h
  split at h
  · cases h
  · split at h
    · exact act?_goesOn h nofun
    · cases hresume : w.act? now (.saver (.resume c)) with
      | some v =>
        rw [hresume] at h
        cases h
        exact act?_goesOn hresume nofun
      | none =>
        rw [hresume] at h
        exact act?_goesOn h nofun
    · exact batch?_goesOn h nofun
    · exact act?_goesOn h nofun

theorem moveLoop_goesOn (h : w.moveLoop now = some w') : GoesOn w.service w'.service := by
  unfold moveLoop at h
  split at h
  · exact batch?_goesOn h nofun
  · exact act?_goesOn h nofun

theorem movePublishing_goesOn (h : w.movePublishing now = some w') :
    GoesOn w.service w'.service := by
  unfold movePublishing at h
  split at h
  · split at h
    · obtain ⟨v, hact, rfl⟩ := Option.map_eq_some_iff.mp h
      have hsame : GoesOn w.service v.service := act?_goesOn hact nofun
      split
      · exact hsame
      · exact hsame
    · cases h
  · split at h
    · exact act?_goesOn h nofun
    · cases h
  · exact act?_goesOn h nofun

/-- Every task moves the service by an action of its own. -/
theorem move_goesOn {t : Task} (h : World.move now t w = some w') :
    GoesOn w.service w'.service := by
  unfold World.move at h
  cases t with
  | ticker => exact act?_goesOn h nofun
  | saverLoop => exact moveLoop_goesOn h
  | publishing => exact movePublishing_goesOn h
  | handler c => exact moveHandler_goesOn h
  | saverCloser c => exact act?_goesOn h nofun
  | publisherCloser c => exact act?_goesOn h nofun

end World

/-! ## Fresh services -/

section

variable {s t : State} {a : Action} {m : Moved}

/-- Without a request, a fresh service stays fresh: it has no handler that could move, and its saver
    has nothing to flush. -/
theorem Fresh.move (fresh : Fresh s) (h : Move s a m) (own : ∀ c r, a ≠ .receive c r) :
    Fresh m.1 := by
  obtain ⟨capacity, groups, ticker, built, as, es, hnew, hrun, unused⟩ := fresh.saver
  obtain ⟨-, -, -, vacant⟩ := Saver.vacant_of_unused hrun hnew unused
  have hcalm := vacant.calm
  have none_kept {hs : List (Caller × Handling)} (hkept : Kept s.handlings hs) : hs = [] := by
    have hkeys := hkept.keys
    rw [fresh.handlings] at hkeys
    exact List.map_eq_nil_iff.mp hkeys
  cases h with
  | receive => exact absurd rfl (own _ _)
  | handle found =>
    rw [State.handling?, fresh.handlings] at found
    cases found
  | @saver b m free move =>
    have hrun' := hrun.tail move
    have unused' : Saver.saves (as ++ [b]) = [] := by
      rw [Saver.saves_append, unused, Saver.saves_singleton]
      cases b <;> first | rfl | cases free
    obtain ⟨-, -, hflushes, -⟩ := Saver.vacant_of_unused hrun' hnew unused'
    rw [Saver.flushes_append] at hflushes
    obtain ⟨hs, hafter, hkept⟩ := exists_afterSaver s m
    rw [hafter]
    refine ⟨fresh.table, ?_, none_kept hkept, capacity, groups, ticker, built, _, _, hnew, hrun',
      unused'⟩
    show Saver.countAll s.metrics m.2 = {}
    rw [Saver.countAll_of_flushes_eq_nil _ (List.append_eq_nil_iff.mp hflushes).2]
    exact fresh.metrics
  | @publisher b m free move =>
    obtain ⟨hs, hafter, hkept⟩ := exists_afterPublisher s m
    rw [hafter]
    exact ⟨fresh.table, fresh.metrics, none_kept hkept, fresh.saver⟩
  -- A flush would be one of an offer that somebody has handed over.
  | store busy =>
    rw [Saver.State.core, busy] at hcalm
    cases hcalm
  | refuse busy =>
    rw [Saver.State.core, busy] at hcalm
    cases hcalm

theorem Fresh.goesOn (fresh : Fresh s) (h : GoesOn s t) : Fresh t := by
  obtain ⟨a, new, hstep, own⟩ := h
  exact fresh.move (move_cases hstep) own

/-- A session with a fresh service stays one while tasks move. -/
theorem Fresh.settle {r : Session} (fresh : Fresh r.state.service) :
    Fresh (r.settle system).state.service :=
  Run.settle_state (P := fun w : World => Fresh w.service)
    (fun fresh hmove => fresh.goesOn (World.move_goesOn hmove)) fresh

/-- A saver that was built and initialized has not been handed an offer, whatever its tasks have
    done since. -/
theorem fresh_of_sessionStart {settings : Settings} {store : Storage.Store} {session : Session}
    {log : List Log.Entry} (h : Session.start settings store = .ok (session, log))
    (empty : store.table = {}) : Fresh session.state.service := by
  unfold Session.start at h
  split at h
  · cases h
  · rename_i saver hbuilt
    have hnew : ∃ capacity groups ticker, Saver.new capacity groups ticker = .ok saver := by
      unfold Saver.Settings.build at hbuilt
      split at hbuilt
      · cases hbuilt
      · exact ⟨_, _, _, hbuilt⟩
    obtain ⟨capacity, groups, ticker, hnew⟩ := hnew
    let r := Session.new saver settings.topic settings.queue settings.release {}
    have hbegun : Fresh r.state.service :=
      ⟨rfl, rfl, rfl, capacity, groups, ticker, saver, [], [], hnew, .refl, rfl⟩
    -- The saver is initialized while the service has no database yet, which is put in after that.
    have hinit : Fresh (Session.initSaver r).2.state.service := by
      unfold Session.initSaver
      split
      · apply Fresh.settle
        show Fresh ((r.state.act? r.now (.saver .init)).getD r.state).service
        cases hact : r.state.act? r.now (.saver .init) with
        | none => exact hbegun
        | some w => exact hbegun.goesOn (World.act?_goesOn hact nofun)
      · exact hbegun
    simp only [] at h
    split at h
    · cases h
    · cases h
      exact ⟨empty, hinit.metrics, hinit.handlings, hinit.saver⟩

/-- A service that comes up on a database without rows is fresh. -/
theorem fresh_of_start {settings : Settings} {disk : Storage.Disk} {r : Running}
    (h : (start settings disk).outcome = .ok r) (empty : r.database.store.table = {}) :
    Fresh r.session.state.service := by
  unfold start at h
  simp only [] at h
  split at h
  · cases h
  · split at h
    · cases h
    · split at h
      · cases h
      · rename_i session said hstart
        cases h
        have fresh := fresh_of_sessionStart hstart empty
        exact ⟨fresh.table, fresh.metrics, fresh.handlings, fresh.saver⟩

end

end OfferService.Service
