import OfferService.Proofs.Storage.Table

/-
  OfferService.Proofs.Storage.Later

  What a table keeps of an earlier one. Ids are issued in ascending order and none is issued twice;
  an id that was issued and names no live row will never name one again. So a row that was removed
  stays removed, whatever is written afterwards.
-/
namespace OfferService.Storage

/-! ## Numbers -/

theorem toInt_toInt64_le (id : UInt64) : id.toInt64.toInt ≤ id.toNat := by
  have hint : id.toInt64.toInt = id.toBitVec.toInt := rfl
  have hnat : id.toBitVec.toNat = id.toNat := rfl
  rw [hint, BitVec.toInt_eq_toNat_cond]
  split <;> omega

theorem toInt_toInt64_of_le {id : UInt64} (h : id.toNat ≤ maxColumn) :
    id.toInt64.toInt = id.toNat := by
  have hint : id.toInt64.toInt = id.toBitVec.toInt := rfl
  have hnat : id.toBitVec.toNat = id.toNat := rfl
  have hmax : maxColumn = 2 ^ 63 - 1 := rfl
  rw [hint, BitVec.toInt_eq_toNat_cond, if_pos (by omega), hnat]

namespace Table

variable {t u v : Table} {c : Content} {id key : Int64} {r : Row} {f : Row → Row}

/-! ## Tables over time -/

/-- No row has an id that was not issued. -/
def Bounded (t : Table) : Prop := ∀ r ∈ t.descending, r.id.toInt ≤ t.issued

/-- A table that has come of another one. -/
structure Later (t u : Table) : Prop where
  issued : t.issued ≤ u.issued
  bounded : t.Bounded → u.Bounded
  gone : ∀ id : Int64, id.toInt ≤ t.issued → t.find? id = none → u.find? id = none

theorem Later.refl (t : Table) : Later t t := ⟨Nat.le_refl _, id, fun _ _ => id⟩

theorem Later.trans (h : Later t u) (h' : Later u v) : Later t v := by
  refine ⟨Nat.le_trans h.issued h'.issued, h'.bounded ∘ h.bounded, ?_⟩
  intro id hid hgone
  have hle : (t.issued : Int) ≤ u.issued := Int.ofNat_le.mpr h.issued
  exact h'.gone id (Int.le_trans hid hle) (h.gone id hid hgone)

theorem find?_eq_none_iff :
    t.find? id = none ↔ ∀ r ∈ t.descending, r.id = id → r.isLive = false := by
  unfold find?
  simp

/-! ## New rows -/

/-- A new row has an id that was not issued before. -/
theorem later_insert (hok : t.insert c = .ok (id, u)) :
    Later t u ∧ t.issued < maxColumn ∧ id = Int64.ofNat (t.issued + 1) ∧
      u.issued = t.issued + 1 := by
  obtain ⟨room, rfl, rfl⟩ := insert_eq_ok hok
  have hmem {r : Row} (hr : r ∈ place (c.toRow (Int64.ofNat (t.issued + 1))) t.descending) :
      r = c.toRow (Int64.ofNat (t.issued + 1)) ∨ r ∈ t.descending :=
    List.mem_cons.mp ((place_perm _ _).mem_iff.mp hr)
  have hnew : (Int64.ofNat (t.issued + 1)).toInt = (t.issued + 1 : Nat) :=
    toInt_ofNat_of_le room
  refine ⟨⟨Nat.le_succ _, ?_, ?_⟩, room, rfl, rfl⟩
  · intro hbounded r hr
    rcases hmem hr with rfl | hold
    · exact Int.le_of_eq hnew
    · have hle := hbounded r hold
      show r.id.toInt ≤ (t.issued + 1 : Nat)
      omega
  · intro id hid hgone
    rw [find?_eq_none_iff] at hgone ⊢
    intro r hr hsame
    rcases hmem hr with rfl | hold
    · -- The new id is larger than any that was issued.
      have hle : (Int64.ofNat (t.issued + 1)).toInt ≤ t.issued := by
        rw [← hsame] at hid
        exact hid
      omega
    · exact hgone r hold hsame

/-! ## Changed rows -/

/-- Rows that are changed keep their ids, and those that are not live stay so. -/
theorem later_modify (t : Table) (key : Int64) (same : ∀ r, (f r).id = r.id) :
    Later t (t.modify key f) := by
  refine ⟨Nat.le_refl _, ?_, ?_⟩
  · intro hbounded r hr
    obtain ⟨r', hr', rfl⟩ := List.mem_map.mp hr
    have hle := hbounded r' hr'
    split
    · rw [same]
      exact hle
    · exact hle
  · intro id _ hgone
    rw [find?_eq_none_iff] at hgone ⊢
    intro r hr hid
    obtain ⟨r', hr', rfl⟩ := List.mem_map.mp hr
    by_cases hlive : (r'.id == key && r'.isLive) = true
    · rw [if_pos hlive, same] at hid
      rw [hgone r' hr' hid, Bool.and_false] at hlive
      cases hlive
    · rw [if_neg hlive] at hid ⊢
      exact hgone r' hr' hid

/-- A row that is marked as removed is not found again. -/
theorem find?_modify (t : Table) (key : Int64) (dead : ∀ r, (f r).isLive = false) :
    (t.modify key f).find? key = none := by
  rw [find?_eq_none_iff]
  intro r hr hid
  obtain ⟨r', hr', rfl⟩ := List.mem_map.mp hr
  by_cases hlive : (r'.id == key && r'.isLive) = true
  · rw [if_pos hlive]
    exact dead r'
  · rw [if_neg hlive] at hid ⊢
    simpa [hid] using hlive

/-- An id that is found was issued. -/
theorem Bounded.le_of_find? (h : t.Bounded) (found : t.find? id ≠ none) :
    id.toInt ≤ t.issued := by
  obtain ⟨r, hfound⟩ := Option.ne_none_iff_exists'.mp found
  obtain ⟨hr, hid, -⟩ := find?_eq_some hfound
  rw [← hid]
  exact h r hr

end Table

/-! ## Operations -/

namespace Store

open Query

variable {s t u : Store} {id : UInt64} {o : Offer} {os : List Offer} {n : Nat}

/-- An offer that is inserted has the next id. -/
theorem insert_later (hok : (insert o).on s = (.ok id, u)) :
    Table.Later s.table u.table ∧ id.toNat = s.table.issued + 1 ∧
      u.table.issued = s.table.issued + 1 := by
  obtain ⟨-, c, key, t, -, hinsert, rfl, rfl⟩ := insert_eq_ok hok
  obtain ⟨hlater, room, rfl, hissued⟩ := Table.later_insert hinsert
  refine ⟨hlater, ?_, hissued⟩
  have hmax : maxColumn = 2 ^ 63 - 1 := rfl
  rw [Int64.toUInt64_ofNat', UInt64.toNat_ofNat_of_lt' (by show _ < 2 ^ 64; omega)]

theorem insertAll_later (hok : (insertAll os).on s = (.ok (), u)) :
    Table.Later s.table u.table :=
  insertAll_keeps (R := fun s u => Table.Later s.table u.table) (fun s => .refl s.table) .trans
    (fun h => (insert_later h).1) hok

/-- Each offer of a batch takes one id. -/
theorem issued_insertAll (hok : (insertAll os).on s = (.ok (), u)) :
    u.table.issued = s.table.issued + os.length := by
  induction os generalizing s with
  | nil =>
    cases hok
    rfl
  | cons o os ih =>
    obtain ⟨id, t, hfirst, hrest⟩ := insertAll_cons_eq_ok hok
    obtain ⟨-, -, hissued⟩ := insert_later hfirst
    have hothers := ih hrest
    rw [List.length_cons]
    omega

theorem createAll_later (hok : (createAll os).on s = (.ok n, u)) :
    Table.Later s.table u.table := insertAll_later (createAll_eq_ok hok).2

/-- Only an offer is updated whose id is found, and so was issued; no id is issued for it. -/
theorem update_later (hok : (update o).on s = (.ok (), u)) :
    Table.Later s.table u.table ∧ u.table.issued = s.table.issued ∧ o.id.toNat ≤ maxColumn ∧
      s.table.find? o.id.toInt64 ≠ none := by
  obtain ⟨-, c, key, r, -, hkey, found, rfl⟩ := update_eq_ok hok
  obtain ⟨fits, rfl⟩ := column_eq_ok hkey
  exact ⟨Table.later_modify _ _ fun _ => rfl, rfl, fits, by rw [found]; nofun⟩

/-- An offer that is removed was found before, and is not found afterwards. -/
theorem remove_later (hok : (remove id).on s = (.ok (), u)) :
    Table.Later s.table u.table ∧ u.table.issued = s.table.issued ∧ id.toNat ≤ maxColumn ∧
      s.table.find? id.toInt64 ≠ none ∧ u.table.find? id.toInt64 = none := by
  obtain ⟨-, key, r, hkey, found, rfl⟩ := remove_eq_ok hok
  obtain ⟨fits, rfl⟩ := column_eq_ok hkey
  exact ⟨Table.later_modify _ _ fun _ => rfl, rfl, fits, by rw [found]; nofun,
    Table.find?_modify _ _ fun _ => rfl⟩

end Store

end OfferService.Storage
