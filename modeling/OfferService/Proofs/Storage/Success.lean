import OfferService.Proofs.Storage.Query

/-
  OfferService.Proofs.Storage.Success

  What has been done when an operation has succeeded: which checks it has passed, and which table is
  there now. Whatever is kept by all operations is proved from this, case by case.
-/
namespace OfferService.Storage

open Query

/-- The row with this content, and the id and the mark that it has. -/
def Content.into (c : Content) (r : Row) : Row :=
  { r with userId := c.userId, teamId := c.teamId, grade := c.grade }

/-- The row, marked as removed. -/
def Row.marked (r : Row) : Row := { r with isDeleted := 1 }

namespace Store

variable {s u : Store} {o : Offer} {os : List Offer} {id : UInt64} {n : Nat} {r : Row}

/-- An offer that was inserted is in the table. -/
theorem insert_eq_ok (hok : (insert o).on s = (.ok id, u)) :
    s.access = .ready ∧ ∃ c key t, Content.ofOffer o = .ok c ∧ s.table.insert c = .ok (key, t) ∧
      id = key.toUInt64 ∧ u = { s with table := t } := by
  obtain ⟨c, hc, hok⟩ := ensure_bind_eq_ok.mp hok
  obtain ⟨ready, hok⟩ := reach_bind_eq_ok.mp hok
  split at hok
  · rename_i key t hinsert
    cases hok
    exact ⟨ready, c, key, t, hc, hinsert, rfl, rfl⟩
  · cases hok

/-- Offers that were inserted one after another: the first one was, and then the others. -/
theorem insertAll_cons_eq_ok (hok : (insertAll (o :: os)).on s = (.ok (), u)) :
    ∃ id t, (insert o).on s = (.ok id, t) ∧ (insertAll os).on t = (.ok (), u) :=
  bind_eq_ok.mp hok

/-- What every single insertion keeps is kept when offers are inserted one after another. -/
theorem insertAll_keeps {R : Store → Store → Prop} (refl : ∀ s, R s s)
    (trans : ∀ {s t u}, R s t → R t u → R s u)
    (one : ∀ {s u o id}, (insert o).on s = (.ok id, u) → R s u)
    (hok : (insertAll os).on s = (.ok (), u)) : R s u := by
  induction os generalizing s with
  | nil =>
    cases hok
    exact refl _
  | cons o os ih =>
    obtain ⟨id, t, hfirst, hrest⟩ := insertAll_cons_eq_ok hok
    exact trans (one hfirst) (ih hrest)

/-- All offers of a batch that was stored were inserted one after another. -/
theorem createAll_eq_ok (hok : (createAll os).on s = (.ok n, u)) :
    n = os.length ∧ (insertAll os).on s = (.ok (), u) := by
  unfold createAll at hok
  split at hok
  · rename_i hempty
    have hnil : os = [] := List.isEmpty_iff.mp hempty
    cases hok
    rw [hnil]
    exact ⟨rfl, rfl⟩
  · obtain ⟨⟨⟩, t, hinserted, hcount⟩ := bind_eq_ok.mp hok
    cases hcount
    rw [on_transaction] at hinserted
    split at hinserted
    · cases hinserted
    · split at hinserted
      · rename_i hinsert
        cases hinserted
        exact ⟨rfl, hinsert⟩
      · cases hinserted

/-- An offer that was updated was there, and has the new content. -/
theorem update_eq_ok (hok : (update o).on s = (.ok (), u)) :
    s.access = .ready ∧ ∃ c key r, Content.ofOffer o = .ok c ∧ column o.id = .ok key ∧
      s.table.find? key = some r ∧ u = { s with table := s.table.modify key c.into } := by
  obtain ⟨c, hc, hok⟩ := ensure_bind_eq_ok.mp hok
  obtain ⟨key, hkey, hok⟩ := ensure_bind_eq_ok.mp hok
  obtain ⟨ready, hok⟩ := reach_bind_eq_ok.mp hok
  simp only [] at hok
  cases found : s.table.find? key with
  | none =>
    rw [found] at hok
    exact absurd hok throw_bind_ne_ok
  | some r =>
    rw [found] at hok
    cases hok
    exact ⟨ready, c, key, r, hc, hkey, found, rfl⟩

/-- An offer that was removed was there, and is marked. -/
theorem remove_eq_ok (hok : (remove id).on s = (.ok (), u)) :
    s.access = .ready ∧ ∃ key r, column id = .ok key ∧ s.table.find? key = some r ∧
      u = { s with table := s.table.modify key Row.marked } := by
  obtain ⟨key, hkey, hok⟩ := ensure_bind_eq_ok.mp hok
  obtain ⟨ready, hok⟩ := reach_bind_eq_ok.mp hok
  simp only [] at hok
  cases found : s.table.find? key with
  | none =>
    rw [found] at hok
    exact absurd hok throw_bind_ne_ok
  | some r =>
    rw [found] at hok
    cases hok
    exact ⟨ready, key, r, hkey, found, rfl⟩

/-- An offer is described only while the store can be reached. -/
theorem ready_of_describe {o : Offer} (hok : ((describe id).on s).1 = .ok o) :
    s.access = .ready := by
  obtain ⟨key, -, hok⟩ := ensure_bind_eq_ok.mp (Prod.ext hok rfl)
  exact (reach_bind_eq_ok.mp hok).1

/-- A row that was inserted as it is has its place in the table. -/
theorem insertRow_eq_ok (hok : (insertRow r).on s = (.ok (), u)) :
    s.access = .ready ∧ ∃ t, s.table.insertRow r = .ok t ∧ u = { s with table := t } := by
  obtain ⟨ready, hok⟩ := reach_bind_eq_ok.mp hok
  split at hok
  · rename_i t hinsert
    cases hok
    exact ⟨ready, t, hinsert, rfl⟩
  · cases hok

end Store

end OfferService.Storage
