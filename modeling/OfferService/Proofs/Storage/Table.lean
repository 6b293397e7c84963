import OfferService.Proofs.Storage.Success

/-
  OfferService.Proofs.Storage.Table

  The rows of a table that offers are written to: their ids are different, none is larger than the
  largest id ever used, and each row is either live or marked. Every operation keeps that; what it
  does to the numbers of rows is told by `Table.Change`. A mark is set on one row exactly, since no
  other row has its id.
-/
namespace OfferService.Storage

/-- Up to the largest number of a column, ids are what they are counted. -/
theorem toInt_ofNat_of_le {n : Nat} (h : n ≤ maxColumn) : (Int64.ofNat n).toInt = n := by
  have hmax : maxColumn = 2 ^ 63 - 1 := rfl
  exact Int64.toInt_ofNat_of_lt (by omega)

namespace Table

variable {t u : Table} {c : Content} {id : Int64} {r : Row} {f : Row → Row}

/-! ## Sound tables -/

/-- The rows of removed offers. -/
def removed (t : Table) : List Row := t.rows.filter fun r => r.isDeleted == 1

/-- What a table keeps to that offers are written to. -/
structure Sound (t : Table) : Prop where
  issued_le : t.issued ≤ maxColumn
  length_le : t.descending.length ≤ t.issued
  id_le : ∀ r ∈ t.descending, r.id.toInt ≤ t.issued
  nodup : (t.descending.map Row.id).Nodup
  marked : ∀ r ∈ t.descending, r.isDeleted = 0 ∨ r.isDeleted = 1

/-- An empty table is sound. -/
theorem sound_empty : Sound {} := ⟨by decide, Nat.le_refl 0, nofun, .nil, nofun⟩

theorem length_rows (t : Table) : t.rows.length = t.descending.length := List.length_reverse

theorem length_removed (t : Table) :
    t.removed.length = t.descending.countP fun r => r.isDeleted == 1 := by
  rw [removed, rows, ← List.countP_eq_length_filter, List.countP_reverse]

/-- There are fewer rows than numbers of 64 bits. -/
theorem Sound.length_rows_lt (h : t.Sound) : t.rows.length < UInt64.size := by
  have hmax : maxColumn < UInt64.size := by decide
  rw [length_rows]
  exact Nat.lt_of_le_of_lt (Nat.le_trans h.length_le h.issued_le) hmax

/-- The rows are those of removed offers and those of all others. -/
theorem Sound.length_live (h : t.Sound) : t.live.length + t.removed.length = t.rows.length := by
  have hsum := List.length_eq_countP_add_countP (fun r : Row => r.isDeleted == 1) (l := t.rows)
  have hlive : t.rows.countP Row.isLive =
      t.rows.countP fun r : Row => decide ¬ (r.isDeleted == 1) = true := by
    apply List.countP_congr
    intro r hr
    rcases h.marked r (List.mem_reverse.mp hr) with hflag | hflag
    · rw [Row.isLive, hflag]
      decide
    · rw [Row.isLive, hflag]
      decide
  rw [live, removed, ← List.countP_eq_length_filter, ← List.countP_eq_length_filter, hlive]
  omega

/-! ## Changes -/

/-- A sound table with `added` rows more, and `gone` more of removed offers. -/
structure Change (t : Table) (added gone : Nat) (u : Table) : Prop where
  sound : u.Sound
  length : u.rows.length = t.rows.length + added
  removed : u.removed.length = t.removed.length + gone

theorem Change.refl (h : t.Sound) : Change t 0 0 t := ⟨h, rfl, rfl⟩

theorem Change.trans {v : Table} {i j m n : Nat} (h : Change t i m u) (h' : Change u j n v) :
    Change t (i + j) (m + n) v := by
  have hlength := h.length
  have hlength' := h'.length
  have hremoved := h.removed
  have hremoved' := h'.removed
  exact ⟨h'.sound, by omega, by omega⟩

theorem place_perm (r : Row) (rows : List Row) : (place r rows).Perm (r :: rows) := by
  induction rows with
  | nil => exact .refl _
  | cons first rest ih =>
    unfold place
    split
    · exact .refl _
    · exact (ih.cons first).trans (.swap r first rest)

theorem insert_eq_ok (h : t.insert c = .ok (id, u)) :
    t.issued < maxColumn ∧ id = Int64.ofNat (t.issued + 1) ∧
      u = { descending := place (c.toRow id) t.descending, issued := t.issued + 1 } := by
  unfold insert at h
  split at h
  · rename_i room
    cases h
    exact ⟨room, rfl, rfl⟩
  · cases h

/-- A new row is live, and has an id that no other row has. -/
theorem Sound.insert (h : t.Sound) (hok : t.insert c = .ok (id, u)) : Change t 1 0 u := by
  obtain ⟨room, hid, rfl⟩ := insert_eq_ok hok
  have hperm := place_perm (c.toRow id) t.descending
  have hnew : id.toInt = (t.issued + 1 : Nat) := by
    rw [hid]
    exact toInt_ofNat_of_le room
  -- The id after the largest one ever used is larger than that of any row.
  have hfresh : id ∉ t.descending.map Row.id := by
    intro hmem
    obtain ⟨r, hr, heq⟩ := List.mem_map.mp hmem
    have hle := h.id_le r hr
    rw [heq, hnew] at hle
    omega
  have hsound :
      Sound { descending := place (c.toRow id) t.descending, issued := t.issued + 1 } := by
    refine ⟨room, ?_, ?_, ?_, ?_⟩
    · have hlength := h.length_le
      rw [hperm.length_eq, List.length_cons]
      exact Nat.succ_le_succ hlength
    · intro r hr
      rcases List.mem_cons.mp (hperm.mem_iff.mp hr) with rfl | hold
      · exact Int.le_of_eq hnew
      · have hle := h.id_le r hold
        have hnext : (t.issued : Int) ≤ (t.issued + 1 : Nat) := by omega
        exact Int.le_trans hle hnext
    · rw [(hperm.map Row.id).nodup_iff]
      exact List.nodup_cons.mpr ⟨hfresh, h.nodup⟩
    · intro r hr
      rcases List.mem_cons.mp (hperm.mem_iff.mp hr) with rfl | hold
      · exact .inl rfl
      · exact h.marked r hold
  refine ⟨hsound, ?_, ?_⟩
  · rw [length_rows, length_rows, hperm.length_eq]
    rfl
  · rw [length_removed, length_removed, hperm.countP_eq, List.countP_cons]
    rfl

/-! ## Changes of one row -/

/-- What is found is a live row of that id. -/
theorem find?_eq_some (found : t.find? id = some r) :
    r ∈ t.descending ∧ r.id = id ∧ r.isLive = true := by
  have hboth := List.find?_some found
  rw [Bool.and_eq_true, beq_iff_eq] at hboth
  exact ⟨List.mem_of_find?_eq_some found, hboth⟩

/-- With different ids, the live row that is found is the only one that changes. -/
theorem exists_modify (h : t.Sound) (found : t.find? id = some r) (f : Row → Row) :
    ∃ before later, t.descending = before ++ r :: later ∧ r.isLive = true ∧
      (t.modify id f).descending = before ++ f r :: later := by
  obtain ⟨-, before, later, heq, hbefore⟩ := List.find?_eq_some_iff_append.mp found
  obtain ⟨-, hr⟩ := find?_eq_some found
  have hnodup := h.nodup
  rw [heq, List.map_append, List.map_cons] at hnodup
  -- The rows before it are those that the search passed over; those after it have other ids.
  have hlater : ∀ r' ∈ later, r'.id ≠ id := by
    intro r' hr' hsame
    have hnot := (List.nodup_cons.mp (List.nodup_append.mp hnodup).2.1).1
    rw [hr.1, ← hsame] at hnot
    exact hnot (List.mem_map_of_mem hr')
  refine ⟨before, later, heq, hr.2, ?_⟩
  have hkeepBefore : (before.map fun r => if (r.id == id && r.isLive) = true then f r else r) =
      before := by
    refine (List.map_congr_left ?_).trans (List.map_id _)
    intro r' hr'
    have hother : (r'.id == id && r'.isLive) = false := by
      have hno := hbefore r' hr'
      rwa [Bool.not_eq_true'] at hno
    rw [hother]
    rfl
  have hkeepLater : (later.map fun r => if (r.id == id && r.isLive) = true then f r else r) =
      later := by
    refine (List.map_congr_left ?_).trans (List.map_id _)
    intro r' hr'
    rw [if_neg (by simp [hlater r' hr'])]
    rfl
  show t.descending.map _ = _
  rw [heq, List.map_append, List.map_cons, hkeepBefore, hkeepLater,
    if_pos (by rw [hr.1, hr.2]; simp)]

/-- One row changes, which keeps its id, and its mark or gets one. -/
theorem Sound.modify {marks : Nat} (h : t.Sound) (found : t.find? id = some r)
    (same : (f r).id = r.id) (mark : marks = 0 ∧ (f r).isDeleted = r.isDeleted ∨
      marks = 1 ∧ (f r).isDeleted = 1) : Change t 0 marks (t.modify id f) := by
  obtain ⟨before, later, heq, hlive, hmodify⟩ := exists_modify h found f
  have hzero : r.isDeleted = 0 := by simpa [Row.isLive] using hlive
  have hlength : (t.modify id f).descending.length = t.descending.length := by
    rw [hmodify, heq, List.length_append, List.length_append]
    rfl
  have hids : (t.modify id f).descending.map Row.id = t.descending.map Row.id := by
    rw [hmodify, heq, List.map_append, List.map_append, List.map_cons, List.map_cons, same]
  have hmem : ∀ r' ∈ (t.modify id f).descending, r' = f r ∨ r' ∈ t.descending := by
    intro r' hr'
    rw [hmodify] at hr'
    rw [heq]
    rcases List.mem_append.mp hr' with hbefore | hr'
    · exact .inr (List.mem_append_left _ hbefore)
    · rcases List.mem_cons.mp hr' with hnew | hlater
      · exact .inl hnew
      · exact .inr (List.mem_append_right _ (List.mem_cons_of_mem _ hlater))
  have hr : r ∈ t.descending := by
    rw [heq]
    exact List.mem_append_right _ List.mem_cons_self
  refine ⟨⟨h.issued_le, ?_, ?_, ?_, ?_⟩, ?_, ?_⟩
  · rw [hlength]
    exact h.length_le
  · intro r' hr'
    rcases hmem r' hr' with rfl | hold
    · rw [same]
      exact h.id_le r hr
    · exact h.id_le r' hold
  · rw [hids]
    exact h.nodup
  · intro r' hr'
    rcases hmem r' hr' with rfl | hold
    · rcases mark with ⟨-, hkept⟩ | ⟨-, hset⟩
      · rw [hkept]
        exact h.marked r hr
      · exact .inr hset
    · exact h.marked r' hold
  · rw [length_rows, length_rows, hlength]
    rfl
  · rw [length_removed, length_removed, hmodify, heq, List.countP_append, List.countP_append,
      List.countP_cons, List.countP_cons, hzero]
    -- The row was live, so it counts for nothing before, and for one after if it is marked.
    rcases mark with ⟨rfl, hkept⟩ | ⟨rfl, hset⟩
    · rw [hkept, hzero]
      rfl
    · rw [hset]
      rfl

end Table

/-! ## What operations change -/

namespace Store

open Query

variable {s u : Store} {id : UInt64} {o : Offer} {os : List Offer} {n : Nat}

/-- Whoever only reads changes nothing. -/
theorem reads_change {α : Type} {q : Query α} {r : Except Error α} (hq : q.Reads)
    (h : s.table.Sound) (hon : q.on s = (r, u)) : Table.Change s.table 0 0 u.table := by
  rw [hq.eq_of_on hon]
  exact .refl h

/-- An offer that is inserted is a row more. -/
theorem insert_change (h : s.table.Sound) (hok : (insert o).on s = (.ok id, u)) :
    Table.Change s.table 1 0 u.table := by
  obtain ⟨-, c, key, t, -, hinsert, -, rfl⟩ := insert_eq_ok hok
  exact h.insert hinsert

/-- Offers that are inserted one after another are as many rows more. -/
theorem insertAll_change (h : s.table.Sound) (hok : (insertAll os).on s = (.ok (), u)) :
    Table.Change s.table os.length 0 u.table := by
  induction os generalizing s with
  | nil =>
    cases hok
    exact .refl h
  | cons o os ih =>
    obtain ⟨id, s₁, hfirst, hrest⟩ := insertAll_cons_eq_ok hok
    have hchange := insert_change h hfirst
    have hall := hchange.trans (ih hchange.sound hrest)
    rw [Nat.add_comm] at hall
    exact hall

theorem createAll_change (h : s.table.Sound) (hok : (createAll os).on s = (.ok n, u)) :
    Table.Change s.table os.length 0 u.table ∧ n = os.length := by
  obtain ⟨hn, hinserted⟩ := createAll_eq_ok hok
  exact ⟨insertAll_change h hinserted, hn⟩

theorem update_change (h : s.table.Sound) (hok : (update o).on s = (.ok (), u)) :
    Table.Change s.table 0 0 u.table := by
  obtain ⟨-, c, key, r, -, -, found, rfl⟩ := update_eq_ok hok
  exact h.modify found rfl (.inl ⟨rfl, rfl⟩)

theorem remove_change (h : s.table.Sound) (hok : (remove id).on s = (.ok (), u)) :
    Table.Change s.table 0 1 u.table := by
  obtain ⟨-, key, r, -, found, rfl⟩ := remove_eq_ok hok
  exact h.modify found rfl (.inr ⟨rfl, rfl⟩)

/-- A list says how many live rows there are. -/
theorem list_totalItems {w : Window} {page : List Offer} {info : PageInfo}
    (hok : (list w).on s = (.ok (page, info), u)) :
    info.totalItems = UInt64.ofNat s.table.live.length := by
  unfold list at hok
  simp only [] at hok
  split at hok
  · exact absurd hok throw_bind_ne_ok
  · obtain ⟨-, hok⟩ := reach_bind_eq_ok.mp hok
    obtain ⟨⟨offset, numbered⟩, -, hok⟩ := ensure_bind_eq_ok.mp hok
    cases hok
    rfl

end Store

end OfferService.Storage
