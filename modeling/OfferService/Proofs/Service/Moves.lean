import OfferService.Proofs.Path
import OfferService.Proofs.Service.Handlers
import OfferService.Proofs.Storage.Query

/-
  OfferService.Proofs.Service.Moves

  What happens in a service: functions that read its events, and what each action does. A run of a
  service is a run of its saver too, seen through the events of the saver alone; so what is known of
  savers holds of the one inside.
-/
namespace OfferService.Service

/-! ## Events -/

namespace Event

/-- What happened in the saver. -/
def ofSaver : Event → List Saver.Event
  | .saver e => [e]
  | _ => []

/-- The request that arrived. -/
def receipt : Event → List Http.Request
  | .received _ r => [r]
  | _ => []

/-- The request that was answered, and how. -/
def answer : Event → List (Http.Request × Http.Response)
  | .answered _ r a => [(r, a)]
  | _ => []

end Event

/-- What happened in the saver, in that order. -/
def saverEvents (es : List Event) : List Saver.Event := es.flatMap Event.ofSaver

/-- The requests that arrived, in that order. -/
def receipts (es : List Event) : List Http.Request := es.flatMap Event.receipt

/-- The requests that were answered, in that order. -/
def answers (es : List Event) : List (Http.Request × Http.Response) := es.flatMap Event.answer

/-- How many changes of offers were answered so. -/
def changes (es : List Event) : Nat := (answers es).countP fun p => Api.thanks p.1 p.2

section

variable (es fs : List Event)

@[simp] theorem saverEvents_append : saverEvents (es ++ fs) = saverEvents es ++ saverEvents fs :=
  List.flatMap_append

@[simp] theorem receipts_append : receipts (es ++ fs) = receipts es ++ receipts fs :=
  List.flatMap_append

@[simp] theorem answers_append : answers (es ++ fs) = answers es ++ answers fs :=
  List.flatMap_append

@[simp] theorem changes_append : changes (es ++ fs) = changes es + changes fs := by
  rw [changes, answers_append, List.countP_append]
  rfl

end

/-- These events tell of no request that arrived or was answered. -/
structure Inside (es : List Event) : Prop where
  receipts : receipts es = []
  answers : answers es = []

theorem saverEvents_map (es : List Saver.Event) : saverEvents (es.map .saver) = es := by
  induction es with
  | nil => rfl
  | cons e es ih => exact congrArg (e :: ·) ih

/-- Nothing is read from events of a kind if nothing is read from any of that kind. -/
theorem flatMap_map_eq_nil {α β : Type} {f : Event → List β} {kind : α → Event}
    (h : ∀ e, f (kind e) = []) (es : List α) : (es.map kind).flatMap f = [] := by
  rw [List.flatMap_map]
  exact List.flatMap_eq_nil_iff.mpr fun e _ => h e

theorem inside_saver (es : List Saver.Event) : Inside (es.map .saver) :=
  ⟨flatMap_map_eq_nil (fun _ => rfl) es, flatMap_map_eq_nil (fun _ => rfl) es⟩

theorem inside_publisher (es : List Publisher.Event) : Inside (es.map .publisher) :=
  ⟨flatMap_map_eq_nil (fun _ => rfl) es, flatMap_map_eq_nil (fun _ => rfl) es⟩

theorem saverEvents_publisher (es : List Publisher.Event) :
    saverEvents (es.map .publisher) = [] :=
  flatMap_map_eq_nil (fun _ => rfl) es

/-! ## Faults of storage -/

section

variable {α : Type} {q : Storage.Query α} {u v : Storage.Store}

/-- What has succeeded was not failed. -/
theorem withFault_eq_ok {fault : Option Storage.Error} {x : α}
    (hok : (withFault fault q).on u = (.ok x, v)) : fault = none ∧ q.on u = (.ok x, v) := by
  cases fault with
  | none => exact ⟨rfl, hok⟩
  | some e => cases hok

theorem withFault_atomic (atomic : q.Atomic) (fault : Option Storage.Error) :
    (withFault fault q).Atomic := by
  cases fault with
  | none => exact atomic
  | some e => exact (Storage.Query.Reads.throw e).atomic

end

/-! ## Actions -/

variable {s₀ s t : State} {as : List Action} {es : List Event}

/-- What an action does that can be taken. -/
inductive Move (s : State) : Action → Moved → Prop
  | receive {c r} (fresh : s.handling? c = none) : Move s (.receive c r) (receive s c r)
  | handle {c h fault} (found : s.handling? c = some h) (free : h.isWaiting = false) :
      Move s (.handle c fault) (handle s c h fault)
  | saver {a m} (own : isOwnOfSaver a = true) (move : Saver.step s.saver a = some m) :
      Move s (.saver a) (afterSaver s m)
  | publisher {a m} (own : isOwnOfPublisher a = true)
      (move : Publisher.step s.publisher a = some m) : Move s (.publisher a) (afterPublisher s m)
  | store {why f after fault n u m} (busy : s.saver.loop = .flushing why f after)
      (stored : (withFault fault (Storage.Store.createAll f.current)).on s.store = (.ok n, u))
      (move : Saver.answer s.saver (.ok ()) = some m) :
      Move s (.storeBatch fault) ((afterSaver { s with store := u } m).1,
        .logged (Storage.Store.batchLog n) :: (afterSaver { s with store := u } m).2)
  | refuse {why f after fault e u m} (busy : s.saver.loop = .flushing why f after)
      (refused : (withFault fault (Storage.Store.createAll f.current)).on s.store = (.error e, u))
      (move : Saver.answer s.saver (.error e) = some m) :
      Move s (.storeBatch fault) (afterSaver { s with store := u } m)

theorem storeBatch_cases {fault : Option Storage.Error} {m : Moved}
    (h : storeBatch s fault = some m) : Move s (.storeBatch fault) m := by
  unfold storeBatch at h
  split at h
  · rename_i why f after busy
    rcases hon : (withFault fault (Storage.Store.createAll f.current)).on s.store with ⟨r, u⟩
    rw [hon] at h
    obtain ⟨m', hanswer, hm⟩ := Option.map_eq_some_iff.mp h
    rw [← hm]
    cases r with
    | ok n => exact .store busy hon hanswer
    | error e => exact .refuse busy hon hanswer
  · cases h

theorem move_cases {a : Action} {m : Moved} (h : step s a = some m) : Move s a m := by
  unfold step at h
  cases a with
  | receive c r =>
    simp only [] at h
    split at h
    · cases h
    · rename_i fresh
      cases h
      exact .receive (by simpa using fresh)
  | handle c fault =>
    simp only [] at h
    split at h
    · rename_i h' found
      split at h
      · cases h
      · rename_i free
        cases h
        exact .handle found (by simpa using free)
    · cases h
  | saver a =>
    simp only [] at h
    split at h
    · rename_i own
      obtain ⟨m', hm, hafter⟩ := Option.map_eq_some_iff.mp h
      rw [← hafter]
      exact .saver own hm
    · cases h
  | publisher a =>
    simp only [] at h
    split at h
    · rename_i own
      obtain ⟨m', hm, hafter⟩ := Option.map_eq_some_iff.mp h
      rw [← hafter]
      exact .publisher own hm
    · cases h
  | storeBatch fault => exact storeBatch_cases h

/-! ## What handlers do -/

/-- The job begins with this query. -/
inductive Asks : Api.Job → {α : Type} → Storage.Query α → (α → List Log.Entry) →
    (Except Storage.Error α → Api.Job) → Prop
  | create {o next} :
      Asks (.create o next) (Storage.Store.create o) (Storage.Store.createdLog o) next
  | createAll {os next} :
      Asks (.createAll os next) (Storage.Store.createAll os) Storage.Store.batchLog next
  | describe {id next} : Asks (.describe id next) (Storage.Store.describe id) silent next
  | list {w next} : Asks (.list w next) (Storage.Store.list w) silent next
  | update {o next} : Asks (.update o next) (Storage.Store.update o) silent next
  | remove {id next} : Asks (.remove id next) (Storage.Store.remove id) silent next

/-- All that the next thing can come to that a handler does. -/
inductive Deed (s : State) (c : Caller) (h : Handling) (fault : Option Storage.Error) : Moved → Prop
  | answer {b} (job : h.job = .answer b) :
      Deed s c h fault (s.endHandling c, [.answered c h.request (Api.sent h.request b)])
  | stored {α : Type} {q : Storage.Query α} {log next x u} (asks : Asks h.job q log next)
      (result : (withFault fault q).on s.store = (.ok x, u)) : Deed s c h fault
        ({ s with store := u }.setHandling c { h with job := next (.ok x) }, [.logged (log x)])
  | failed {α : Type} {q : Storage.Query α} {log next e u} (asks : Asks h.job q log next)
      (result : (withFault fault q).on s.store = (.error e, u)) : Deed s c h fault
        ({ s with store := u }.setHandling c { h with job := next (.error e) }, [])
  | save {o next} (job : h.job = .save o next) : Deed s c h fault
      (afterSaver (s.setHandling c { h with isWaiting := true }) (Saver.save s.saver c o))
  | publish {kind id next e} (job : h.job = .publish kind id next) : Deed s c h fault
      (afterPublisher (s.setHandling c { h with isWaiting := true })
        (Publisher.send s.publisher c e))
  | count {change next} (job : h.job = .count change next) : Deed s c h fault
      ({ s with metrics := change s.metrics }.setHandling c { h with job := next }, [])
  | log {es next} (job : h.job = .log es next) :
      Deed s c h fault (s.setHandling c { h with job := next }, [.logged es])

theorem handle_cases {c : Caller} {h : Handling} {fault : Option Storage.Error} {m : Moved}
    (hm : handle s c h fault = m) : Deed s c h fault m := by
  have hquery {α : Type} {q : Storage.Query α} {log : α → List Log.Entry}
      {next : Except Storage.Error α → Api.Job} (asks : Asks h.job q log next) :
      Deed s c h fault (query s c h fault q log next) := by
    unfold query
    rcases hon : (withFault fault q).on s.store with ⟨x, u⟩
    cases x with
    | ok a => exact .stored asks hon
    | error e => exact .failed asks hon
  rw [← hm]
  unfold handle
  split
  · rename_i job
    exact .answer job
  · rename_i job
    exact hquery (job ▸ .create)
  · rename_i job
    exact hquery (job ▸ .createAll)
  · rename_i job
    exact hquery (job ▸ .describe)
  · rename_i job
    exact hquery (job ▸ .list)
  · rename_i job
    exact hquery (job ▸ .update)
  · rename_i job
    exact hquery (job ▸ .remove)
  · rename_i job
    exact .save job
  · rename_i job
    exact .publish job
  · rename_i job
    exact .count job
  · rename_i job
    exact .log job

/-! ## The saver inside -/

theorem afterSaver_saver (s : State) (m : Saver.Moved) :
    (afterSaver s m).1.saver = m.1 ∧ saverEvents (afterSaver s m).2 = m.2 := by
  obtain ⟨hs, hafter, -⟩ := exists_afterSaver s m
  refine ⟨?_, saverEvents_map m.2⟩
  rw [hafter]

theorem afterPublisher_saver (s : State) (m : Publisher.Moved) :
    (afterPublisher s m).1.saver = s.saver ∧ saverEvents (afterPublisher s m).2 = [] := by
  obtain ⟨hs, hafter, -⟩ := exists_afterPublisher s m
  refine ⟨?_, saverEvents_publisher m.2⟩
  rw [hafter]

/-- A move of the service is one of its saver, or nothing to it. -/
def OfSaver (s : State) (m : Moved) : Prop :=
  (∃ b, Saver.step s.saver b = some (m.1.saver, saverEvents m.2)) ∨
    m.1.saver = s.saver ∧ saverEvents m.2 = []

theorem afterSaver_ofSaver {a : Saver.Action} {m : Saver.Moved} {u : Storage.Store}
    (h : Saver.step s.saver a = some m) : OfSaver s (afterSaver { s with store := u } m) := by
  obtain ⟨hsaver, hevents⟩ := afterSaver_saver { s with store := u } m
  refine Or.inl ⟨a, ?_⟩
  rw [hsaver, hevents]
  exact h

/-- A handler that has no offer to hand over leaves the saver alone. -/
theorem handle_aside {h : Handling} (none : ∀ o next, h.job ≠ .save o next) (s : State)
    (c : Caller) (fault : Option Storage.Error) :
    (handle s c h fault).1.saver = s.saver ∧ saverEvents (handle s c h fault).2 = [] := by
  generalize hm : handle s c h fault = m
  cases handle_cases hm with
  | save job => exact absurd job (none _ _)
  | publish => exact afterPublisher_saver _ _
  | _ => exact ⟨rfl, rfl⟩

theorem handle_ofSaver (s : State) (c : Caller) (h : Handling) (fault : Option Storage.Error) :
    OfSaver s (handle s c h fault) := by
  by_cases hsave : ∃ o next, h.job = .save o next
  · obtain ⟨o, next, hjob⟩ := hsave
    obtain ⟨hsaver, hevents⟩ := afterSaver_saver (s.setHandling c { h with isWaiting := true })
      (Saver.save s.saver c o)
    refine Or.inl ⟨.save c o, ?_⟩
    unfold handle
    simp only [hjob] at hsaver hevents ⊢
    rw [hsaver, hevents]
    rfl
  · exact Or.inr (handle_aside (fun o next hjob => hsave ⟨o, next, hjob⟩) s c fault)

theorem Move.ofSaver {a : Action} {m : Moved} (h : Move s a m) : OfSaver s m := by
  cases h with
  | receive => exact Or.inr ⟨rfl, rfl⟩
  | handle => exact handle_ofSaver ..
  | saver own move => exact afterSaver_ofSaver (u := s.store) move
  | publisher own move => exact Or.inr (afterPublisher_saver s _)
  | store busy stored move => exact afterSaver_ofSaver (a := .answer (.ok ())) move
  | refuse busy refused move => exact afterSaver_ofSaver (a := .answer (.error _)) move

/-- A run of a service is a run of its saver, with the events of the saver. -/
theorem exists_saver_run (h : Path step s₀ as es s) :
    ∃ bs, Path Saver.step s₀.saver bs (saverEvents es) s.saver := by
  refine h.invariant (P := fun _ es s => ∃ bs, Path Saver.step s₀.saver bs (saverEvents es) s.saver)
    ⟨[], .refl⟩ ?_
  rintro as es t a u new - ⟨bs, hrun⟩ hstep
  rw [saverEvents_append]
  rcases (move_cases hstep).ofSaver with ⟨b, hb⟩ | ⟨hsaver, hevents⟩
  · exact ⟨bs ++ [b], hrun.tail hb⟩
  · refine ⟨bs, ?_⟩
    rw [hsaver, hevents, List.append_nil]
    exact hrun

end OfferService.Service
