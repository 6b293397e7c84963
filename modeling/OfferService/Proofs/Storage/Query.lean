import OfferService.Storage.Store

/-
  OfferService.Proofs.Storage.Query

  What queries answer and what they leave behind, by the way they are put together. A query that
  only reads leaves the store as it was; one that is certain to succeed never has to be undone; and
  a query is atomic if nothing remains of it when it fails. Reading first and then an atomic query
  is atomic, and so is an atomic query followed by one that cannot fail: operations are taken apart
  that way, and no other proof has to look into the monad.
-/
namespace OfferService.Storage

variable {α β : Type} {q : Query α} {f : α → Query β} {s t u : Store} {a : α} {b : β} {e : Error}

/-- The table of a store, if it can be reached. -/
def Store.reached (s : Store) : Except Error Table :=
  match s.access with
  | .ready => .ok s.table
  | .closed => .error (.sql .poolClosed)
  | .unprepared => .error (.sql .noTable)

namespace Query

/-! ## Running -/

@[simp] theorem on_get (s : Store) : (get : Query Store).on s = (.ok s, s) := rfl

@[simp] theorem on_set (s t : Store) : (set t : Query Unit).on s = (.ok (), t) := rfl

@[simp] theorem on_ensure (r : Except Error α) (s : Store) : (ensure r).on s = (r, s) := by
  cases r <;> rfl

theorem on_bind_ok (h : q.on s = (.ok a, t)) : (q >>= f).on s = (f a).on t := by
  unfold on at h ⊢
  simp only [ExceptT.run_bind, StateT.run_bind, h]
  rfl

theorem on_bind_error (h : q.on s = (.error e, t)) : (q >>= f).on s = (.error e, t) := by
  unfold on at h ⊢
  simp only [ExceptT.run_bind, StateT.run_bind, h]
  rfl

/-- Two queries in a row succeed if the first does, and then the second. -/
theorem bind_eq_ok : (q >>= f).on s = (.ok b, u) ↔
    ∃ a t, q.on s = (.ok a, t) ∧ (f a).on t = (.ok b, u) := by
  rcases h : q.on s with ⟨r, t⟩
  cases r with
  | ok a =>
    rw [on_bind_ok h]
    constructor
    · intro hnext
      exact ⟨a, t, rfl, hnext⟩
    · rintro ⟨a', t', heq, hnext⟩
      cases heq
      exact hnext
  | error e =>
    rw [on_bind_error h]
    constructor
    · intro heq
      cases heq
    · rintro ⟨a', t', heq, -⟩
      cases heq

theorem on_connect (s : Store) : connect.on s =
    (if s.access = .closed then .error (.sql .poolClosed) else .ok (), s) := by
  unfold connect
  rw [on_bind_ok (on_get s)]
  split <;> rfl

@[simp] theorem on_reach (s : Store) : reach.on s = (s.reached, s) := by
  unfold reach Store.reached
  rcases hs : s.access with _ | _ | _
  · rw [on_bind_ok (by rw [on_connect, hs]; rfl), on_bind_ok (on_get s), hs]
    rfl
  · rw [on_bind_error (by rw [on_connect, hs]; rfl)]
  · rw [on_bind_ok (by rw [on_connect, hs]; rfl), on_bind_ok (on_get s), hs]
    rfl

/-- What comes after a check is done if the check does not fail. -/
theorem ensure_bind_eq_ok {r : Except Error α} : (ensure r >>= f).on s = (.ok b, u) ↔
    ∃ a, r = .ok a ∧ (f a).on s = (.ok b, u) := by
  rw [bind_eq_ok]
  constructor
  · rintro ⟨a, t, hcheck, hnext⟩
    rw [on_ensure] at hcheck
    obtain ⟨hr, rfl⟩ := Prod.mk.inj hcheck
    exact ⟨a, hr, hnext⟩
  · rintro ⟨a, hr, hnext⟩
    exact ⟨a, s, by rw [on_ensure, hr], hnext⟩

/-- What is done with the table is done if it can be reached. -/
theorem reach_bind_eq_ok {f : Table → Query β} : (reach >>= f).on s = (.ok b, u) ↔
    s.access = .ready ∧ (f s.table).on s = (.ok b, u) := by
  rw [bind_eq_ok]
  constructor
  · rintro ⟨t, s', hreach, hnext⟩
    rw [on_reach] at hreach
    obtain ⟨hreached, rfl⟩ := Prod.mk.inj hreach
    unfold Store.reached at hreached
    split at hreached
    · rename_i ready
      cases hreached
      exact ⟨ready, hnext⟩
    · cases hreached
    · cases hreached
  · rintro ⟨ready, hnext⟩
    exact ⟨s.table, s, by rw [on_reach, Store.reached, ready], hnext⟩

/-- Nothing is done after an error. -/
theorem throw_bind_ne_ok : (throw e >>= f : Query β).on s ≠ (.ok b, u) := by
  intro h
  obtain ⟨a, t, hthrow, -⟩ := bind_eq_ok.mp h
  cases hthrow

/-- A query that is caught when it fails. -/
theorem on_tryCatch (q : Query α) (handler : Error → Query α) (s : Store) :
    (tryCatch q handler).on s = match q.on s with
      | (.ok a, t) => (.ok a, t)
      | (.error e, t) => (handler e).on t := by
  rcases h : q.on s with ⟨r, t⟩
  have hrun : StateT.run q s = (r, t) := h
  show (ExceptT.tryCatch q handler).run.run s = _
  unfold ExceptT.tryCatch
  rw [ExceptT.run_mk, StateT.run_bind, hrun]
  cases r <;> rfl

/-- A transaction is undone if it fails. -/
theorem on_transaction (q : Query α) (s : Store) : (transaction q).on s =
    if s.access = .closed then (.error (.sql .poolClosed), s)
    else match q.on s with
      | (.ok a, t) => (.ok a, t)
      | (.error e, _) => (.error e, s) := by
  unfold transaction
  by_cases hs : s.access = .closed
  · rw [on_bind_error (e := .sql .poolClosed) (t := s) (by rw [on_connect, if_pos hs]), if_pos hs]
  · -- What is set back at the end is the store that was read at the beginning.
    rw [on_bind_ok (a := ()) (t := s) (by rw [on_connect, if_neg hs]), on_bind_ok (on_get s),
      if_neg hs, on_tryCatch]
    rcases q.on s with ⟨r, t⟩
    cases r with
    | ok a => rfl
    | error e => exact on_bind_ok (on_set t s)

/-! ## Queries that leave the store as it was -/

/-- A query that leaves the store as it was, whatever it answers. -/
def Reads (q : Query α) : Prop := ∀ s, (q.on s).2 = s

/-- A query that cannot fail. -/
def Certain (q : Query α) : Prop := ∀ s, ∃ a, (q.on s).1 = .ok a

/-- A query of which nothing remains if it fails. -/
def Atomic (q : Query α) : Prop := ∀ s e, (q.on s).1 = .error e → (q.on s).2 = s

namespace Reads

theorem pure (a : α) : Reads (pure a) := fun _ => rfl

theorem throw (e : Error) : Reads (throw e : Query α) := fun _ => rfl

theorem ensure (r : Except Error α) : Reads (ensure r) := by
  intro s
  rw [on_ensure]

theorem reach : Reads reach := by
  intro s
  rw [on_reach]

theorem eq_of_on {r : Except Error α} (hq : Reads q) (h : q.on s = (r, t)) : t = s := by
  have hsame := hq s
  rw [h] at hsame
  exact hsame

theorem bind (hq : Reads q) (hf : ∀ a, Reads (f a)) : Reads (q >>= f) := by
  intro s
  rcases h : q.on s with ⟨r, t⟩
  rw [hq.eq_of_on h] at h
  cases r with
  | ok a => rw [on_bind_ok h, hf a s]
  | error e => rw [on_bind_error h]

theorem atomic (hq : Reads q) : Atomic q := fun s _ _ => hq s

end Reads

namespace Certain

theorem pure (a : α) : Certain (Pure.pure a : Query α) := fun _ => ⟨a, rfl⟩

theorem modify (g : Store → Store) : Certain (modify g : Query Unit) := fun _ => ⟨(), rfl⟩

theorem bind (hq : Certain q) (hf : ∀ a, Certain (f a)) : Certain (q >>= f) := by
  intro s
  obtain ⟨a, ha⟩ := hq s
  rcases h : q.on s with ⟨r, t⟩
  rw [h] at ha
  cases ha
  rw [on_bind_ok h]
  exact hf a t

theorem atomic (hq : Certain q) : Atomic q := by
  intro s e he
  obtain ⟨a, ha⟩ := hq s
  rw [ha] at he
  cases he

end Certain

namespace Atomic

theorem eq_of_on (hq : Atomic q) (h : q.on s = (.error e, t)) : t = s := by
  have hsame := hq s e (by rw [h])
  rw [h] at hsame
  exact hsame

/-- What was read before does not have to be undone. -/
theorem of_reads (hq : Reads q) (hf : ∀ a, Atomic (f a)) : Atomic (q >>= f) := by
  intro s e he
  rcases h : q.on s with ⟨r, t⟩
  rw [hq.eq_of_on h] at h
  cases r with
  | ok a =>
    rw [on_bind_ok h] at he ⊢
    exact hf a s e he
  | error e' => rw [on_bind_error h]

/-- What comes after an atomic query does not undo it if it cannot fail. -/
theorem bind_certain (hq : Atomic q) (hf : ∀ a, Certain (f a)) : Atomic (q >>= f) := by
  intro s e he
  rcases h : q.on s with ⟨r, t⟩
  cases r with
  | ok a =>
    rw [on_bind_ok h] at he
    obtain ⟨b, hb⟩ := hf a t
    rw [hb] at he
    cases he
  | error e' =>
    rw [on_bind_error h]
    exact hq.eq_of_on h

/-- What is made of the answer does not matter. -/
theorem map (hq : Atomic q) (g : α → β) : Atomic (g <$> q) := by
  rw [map_eq_pure_bind]
  exact hq.bind_certain fun _ => .pure _

/-- A transaction is atomic, whatever is done in it. -/
theorem transaction (q : Query α) : Atomic (transaction q) := by
  intro s e he
  rw [on_transaction] at he ⊢
  split
  · rfl
  · rename_i ready
    rw [if_neg ready] at he
    split
    · rename_i hq
      rw [hq] at he
      cases he
    · rfl

end Atomic

end Query

end OfferService.Storage
