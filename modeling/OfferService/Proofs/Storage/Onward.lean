import OfferService.Proofs.Storage.Rollback
import OfferService.Proofs.Storage.Success

/-
  OfferService.Proofs.Storage.Onward

  What operations on stored offers leave alone: none of them changes how the database is reached,
  and none takes an id back. So a store that is in good order with ids to spare at the end of a run
  was so all along.
-/
namespace OfferService.Storage

open Query

namespace Store

variable {s t u : Store} {id : UInt64} {o : Offer} {os : List Offer} {n : Nat}

/-- The database is reached as before, and no id was taken back. -/
structure Onward (s t : Store) : Prop where
  access : t.access = s.access
  issued : s.table.issued ≤ t.table.issued

theorem Onward.refl (s : Store) : Onward s s := ⟨rfl, Nat.le_refl _⟩

theorem Onward.trans (h : Onward s t) (h' : Onward t u) : Onward s u :=
  ⟨h'.access.trans h.access, Nat.le_trans h.issued h'.issued⟩

theorem insert_onward (hok : (insert o).on s = (.ok id, u)) : Onward s u := by
  obtain ⟨-, c, key, t, -, hinsert, -, rfl⟩ := insert_eq_ok hok
  unfold Table.insert at hinsert
  split at hinsert
  · cases hinsert
    exact ⟨rfl, Nat.le_succ _⟩
  · cases hinsert

theorem insertAll_onward (hok : (insertAll os).on s = (.ok (), u)) : Onward s u :=
  insertAll_keeps .refl .trans insert_onward hok

theorem createAll_onward (hok : (createAll os).on s = (.ok n, u)) : Onward s u :=
  insertAll_onward (createAll_eq_ok hok).2

/-- A change of a row needs no id. -/
theorem update_onward (hok : (update o).on s = (.ok (), u)) : Onward s u := by
  obtain ⟨-, c, key, r, -, -, -, rfl⟩ := update_eq_ok hok
  exact ⟨rfl, Nat.le_refl _⟩

theorem remove_onward (hok : (remove id).on s = (.ok (), u)) : Onward s u := by
  obtain ⟨-, key, r, -, -, rfl⟩ := remove_eq_ok hok
  exact ⟨rfl, Nat.le_refl _⟩

end Store

/-- An atomic query goes on from the store if it does when it succeeds. -/
theorem Query.Atomic.onward {α : Type} {q : Query α} (hq : Atomic q) (s : Store)
    (ok : ∀ a u, q.on s = (.ok a, u) → Store.Onward s u) : Store.Onward s (q.on s).2 := by
  rcases hon : q.on s with ⟨r, u⟩
  cases r with
  | ok a => exact ok a u hon
  | error e =>
    rw [hq.eq_of_on hon]
    exact .refl _

end OfferService.Storage
