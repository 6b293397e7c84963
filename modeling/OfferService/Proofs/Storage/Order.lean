import Mathlib.Data.List.Nodup
import Mathlib.Logic.Relation
import OfferService.Proofs.Storage.Outcome

/-
  OfferService.Proofs.Storage.Order

  Tables that anything may have been written to, rows with ids of their own choice too. `Write` says
  all that can happen to a table; every operation comes to some writes, one after another, or to
  none. Each write keeps the rows in the order of their ids, and the number of the largest id ever
  used is that of the largest id in the table: for no write takes a row away, and none touches the
  row of a removed offer again.
-/
namespace OfferService.Storage

open Relation (ReflTransGen)

/-! ## The largest id -/

/-- The largest of some ids, counted from zero. -/
def largest : List Int64 → Nat
  | [] => 0
  | id :: ids => max id.toInt.toNat (largest ids)

theorem largest_le_iff {ids : List Int64} {n : Nat} :
    largest ids ≤ n ↔ ∀ id ∈ ids, id.toInt ≤ n := by
  induction ids with
  | nil => simp [largest]
  | cons id ids ih =>
    rw [largest, Nat.max_le, ih, List.forall_mem_cons, Int.toNat_le]

theorem le_largest {ids : List Int64} {id : Int64} (h : id ∈ ids) : id.toInt ≤ largest ids :=
  largest_le_iff.mp (Nat.le_refl _) id h

theorem largest_mono {ids ids' : List Int64} (h : ids ⊆ ids') : largest ids ≤ largest ids' :=
  largest_le_iff.mpr fun _ hid => le_largest (h hid)

/-- No id is larger than the largest number of a column. -/
theorem largest_le_maxColumn (ids : List Int64) : largest ids ≤ maxColumn := by
  refine largest_le_iff.mpr fun id _ => ?_
  have hmax : maxColumn = 2 ^ 63 - 1 := rfl
  have hlt := id.toInt_lt
  omega

namespace Table

variable {t u v : Table} {c : Content} {id : Int64} {r r' : Row} {f : Row → Row}
  {rows : List Row}

/-! ## Rows in order -/

/-- The ids of all rows, the smallest first. -/
def ids (t : Table) : List Int64 := t.rows.map Row.id

theorem mem_rows : r ∈ t.rows ↔ r ∈ t.descending := List.mem_reverse

theorem mem_ids : id ∈ t.ids ↔ ∃ r ∈ t.rows, r.id = id := List.mem_map

theorem mem_ids_of_mem (h : r ∈ t.rows) : r.id ∈ t.ids := List.mem_map_of_mem h

/-- The rows come in the order of their ids, all of them different, and the largest id ever used is
    the largest id of a row. -/
structure Ordered (t : Table) : Prop where
  sorted : t.descending.Pairwise fun a b => b.id < a.id
  issued : t.issued = largest t.ids

/-- An empty table is ordered. -/
theorem ordered_empty : Ordered {} := ⟨.nil, rfl⟩

theorem Ordered.bounded (h : t.Ordered) : t.Bounded := by
  intro r hr
  rw [h.issued]
  exact le_largest (mem_ids_of_mem (mem_rows.mpr hr))

theorem Ordered.issued_le (h : t.Ordered) : t.issued ≤ maxColumn := by
  rw [h.issued]
  exact largest_le_maxColumn _

/-- A row is known by its id. -/
theorem Ordered.eq_of_id (h : t.Ordered) (hr : r ∈ t.rows) (hr' : r' ∈ t.rows)
    (same : r.id = r'.id) : r = r' := by
  have hnodup : (t.descending.map Row.id).Nodup := by
    refine List.pairwise_map.mpr (h.sorted.imp ?_)
    rintro a b hlt heq
    rw [heq] at hlt
    exact Int64.lt_irrefl hlt
  exact List.inj_on_of_nodup_map hnodup (mem_rows.mp hr) (mem_rows.mp hr') same

/-! ## Finding rows -/

/-- The row that is found is the live row of that id. -/
theorem Ordered.find?_eq_some_iff (h : t.Ordered) :
    t.find? id = some r ↔ r ∈ t.rows ∧ r.id = id ∧ r.isLive = true := by
  rw [mem_rows]
  constructor
  · exact find?_eq_some
  · rintro ⟨hr, rfl, live⟩
    cases found : t.find? r.id with
    | none =>
      rw [find?_eq_none_iff] at found
      rw [found r hr rfl] at live
      cases live
    | some r' =>
      obtain ⟨hr', same, -⟩ := find?_eq_some found
      rw [h.eq_of_id (mem_rows.mpr hr') (mem_rows.mpr hr) same]

theorem isSome_find? : (t.find? id).isSome = true ↔ ∃ r ∈ t.rows, r.id = id ∧ r.isLive = true := by
  simp [find?, mem_rows]

/-! ## Placing rows -/

/-- A row with an id above all others comes first. -/
theorem place_of_above (above : ∀ a ∈ rows, a.id < r.id) : place r rows = r :: rows := by
  cases rows with
  | nil => rfl
  | cons first rest => rw [place, if_pos (above first List.mem_cons_self)]

theorem place_sorted (sorted : rows.Pairwise fun a b => b.id < a.id)
    (fresh : ∀ a ∈ rows, a.id ≠ r.id) : (place r rows).Pairwise fun a b => b.id < a.id := by
  induction rows with
  | nil => exact List.pairwise_singleton _ _
  | cons first rest ih =>
    obtain ⟨hfirst, hrest⟩ := List.pairwise_cons.mp sorted
    unfold place
    split
    · rename_i hlt
      -- In front of the first smaller id the row stops, and all behind it are smaller still.
      refine List.pairwise_cons.mpr ⟨?_, sorted⟩
      intro b hb
      rcases List.mem_cons.mp hb with rfl | hb
      · exact hlt
      · exact Int64.lt_trans (hfirst b hb) hlt
    · rename_i hnot
      refine List.pairwise_cons.mpr ⟨?_, ih hrest fun a ha => fresh a (List.mem_cons_of_mem _ ha)⟩
      intro b hb
      rcases List.mem_cons.mp ((place_perm r rest).mem_iff.mp hb) with rfl | hb
      · exact Int64.lt_of_le_of_ne (Int64.not_lt.mp hnot) (fresh first List.mem_cons_self).symm
      · exact hfirst b hb

/-- In an ordered table the next row comes after all others. -/
theorem Ordered.rows_insert (h : t.Ordered) (hok : t.insert c = .ok (id, u)) :
    u.rows = t.rows ++ [c.toRow id] := by
  obtain ⟨room, rfl, rfl⟩ := insert_eq_ok hok
  have habove : ∀ a ∈ t.descending, a.id < (c.toRow (Int64.ofNat (t.issued + 1))).id := by
    intro a ha
    have hle := h.bounded a ha
    have hnew : (Int64.ofNat (t.issued + 1)).toInt = (t.issued + 1 : Nat) :=
      toInt_ofNat_of_le room
    rw [Int64.lt_iff_toInt_lt]
    show a.id.toInt < (Int64.ofNat (t.issued + 1)).toInt
    omega
  show (place _ t.descending).reverse = t.descending.reverse ++ _
  rw [place_of_above habove, List.reverse_cons]

theorem insertRow_eq_ok (hok : t.insertRow r = .ok u) : (∀ a ∈ t.rows, a.id ≠ r.id) ∧
    u = { descending := place r t.descending, issued := max t.issued r.id.toInt.toNat } := by
  unfold insertRow at hok
  split at hok
  · cases hok
  · rename_i free
    cases hok
    refine ⟨fun a ha same => free ?_, rfl⟩
    exact List.any_eq_true.mpr ⟨a, mem_rows.mp ha, beq_iff_eq.mpr same⟩

/-- A row with an id of its own choice is a row more. -/
theorem mem_rows_insertRow (hok : t.insertRow r = .ok u) :
    r' ∈ u.rows ↔ r' = r ∨ r' ∈ t.rows := by
  obtain ⟨-, rfl⟩ := insertRow_eq_ok hok
  rw [mem_rows, mem_rows]
  exact (place_perm r t.descending).mem_iff.trans List.mem_cons

theorem mem_rows_modify : r' ∈ (t.modify id f).rows ↔
    ∃ r ∈ t.rows, (if (r.id == id && r.isLive) = true then f r else r) = r' := by
  simp only [mem_rows]
  exact List.mem_map

theorem ids_modify (same : ∀ r, (f r).id = r.id) : (t.modify id f).ids = t.ids := by
  unfold ids rows modify
  rw [List.map_reverse, List.map_reverse, List.map_map]
  congr 1
  apply List.map_congr_left
  intro r _
  show (if (r.id == id && r.isLive) = true then f r else r).id = r.id
  split
  · exact same r
  · rfl

/-! ## Writes -/

/-- What can happen to a table. -/
inductive Write (t : Table) : Table → Prop
  | insert {c : Content} {id : Int64} {u : Table} (done : t.insert c = .ok (id, u)) : Write t u
  | insertRow {r : Row} {u : Table} (done : t.insertRow r = .ok u) : Write t u
  | modify {id : Int64} {r : Row} {f : Row → Row} (found : t.find? id = some r)
      (same : ∀ r, (f r).id = r.id) : Write t (t.modify id f)

theorem Ordered.write (h : t.Ordered) (hw : Write t u) : u.Ordered := by
  cases hw with
  | @insert c id u done =>
    have hrows := h.rows_insert done
    obtain ⟨room, hid, hu⟩ := insert_eq_ok done
    have hnew : id.toInt = (t.issued + 1 : Nat) := hid ▸ toInt_ofNat_of_le room
    have hids : u.ids = t.ids ++ [id] := by
      rw [ids, hrows, List.map_append]
      rfl
    refine ⟨?_, ?_⟩
    · rw [hu]
      refine place_sorted h.sorted fun a ha same => ?_
      have hle := h.bounded a ha
      rw [same] at hle
      change id.toInt ≤ t.issued at hle
      omega
    · -- The new id is one more than the largest, so it is the largest now.
      apply Nat.le_antisymm
      · have hle : id.toInt ≤ largest u.ids := le_largest (by rw [hids]; simp)
        have hissued : u.issued = t.issued + 1 := by rw [hu]
        omega
      · refine largest_le_iff.mpr fun id' hid' => ?_
        have hissued : u.issued = t.issued + 1 := by rw [hu]
        rw [hids] at hid'
        rcases List.mem_append.mp hid' with hold | hlast
        · have hle := le_largest hold
          rw [← h.issued] at hle
          omega
        · rw [List.mem_singleton.mp hlast]
          omega
  | @insertRow r u done =>
    obtain ⟨fresh, hu⟩ := insertRow_eq_ok done
    have hmem : ∀ id', id' ∈ u.ids ↔ id' = r.id ∨ id' ∈ t.ids := by
      intro id'
      simp only [mem_ids, mem_rows_insertRow done]
      constructor
      · rintro ⟨a, rfl | ha, rfl⟩
        · exact Or.inl rfl
        · exact Or.inr ⟨a, ha, rfl⟩
      · rintro (rfl | ⟨a, ha, rfl⟩)
        · exact ⟨r, Or.inl rfl, rfl⟩
        · exact ⟨a, Or.inr ha, rfl⟩
    have hissued : u.issued = max t.issued r.id.toInt.toNat := by rw [hu]
    refine ⟨?_, ?_⟩
    · rw [hu]
      exact place_sorted h.sorted fun a ha => fresh a (mem_rows.mpr ha)
    · -- An id of one's own choice may be larger than all that were issued; then it is the largest now.
      rw [hissued]
      apply Nat.le_antisymm
      · refine Nat.max_le.mpr ⟨?_, ?_⟩
        · rw [h.issued]
          exact largest_mono fun id' hid' => (hmem id').mpr (Or.inr hid')
        · exact Int.toNat_le.mpr (le_largest ((hmem r.id).mpr (Or.inl rfl)))
      · refine largest_le_iff.mpr fun id' hid' => ?_
        rcases (hmem id').mp hid' with rfl | hold
        · omega
        · have hle := le_largest hold
          rw [← h.issued] at hle
          omega
  | @modify id r f found same =>
    refine ⟨?_, ?_⟩
    · refine List.pairwise_map.mpr (h.sorted.imp ?_)
      intro a b hlt
      have hid (r : Row) : (if (r.id == id && r.isLive) = true then f r else r).id = r.id := by
        split
        · exact same r
        · rfl
      rw [hid, hid]
      exact hlt
    · rw [ids_modify same]
      exact h.issued

/-- All rows are kept with their ids, and those of removed offers as they are. -/
def Keeps (t u : Table) : Prop :=
  ∀ r ∈ t.rows, ∃ r' ∈ u.rows, r'.id = r.id ∧ (r.isLive = false → r' = r)

theorem Keeps.refl (t : Table) : Keeps t t := fun r hr => ⟨r, hr, rfl, fun _ => rfl⟩

theorem Keeps.trans (h : Keeps t u) (h' : Keeps u v) : Keeps t v := by
  intro r hr
  obtain ⟨r₁, hr₁, hid₁, hgone₁⟩ := h r hr
  obtain ⟨r₂, hr₂, hid₂, hgone₂⟩ := h' r₁ hr₁
  refine ⟨r₂, hr₂, hid₂.trans hid₁, fun gone => ?_⟩
  have hsame := hgone₁ gone
  rw [hgone₂ (hsame ▸ gone), hsame]

/-- Only live rows are changed. -/
theorem Write.keeps (h : Write t u) : Keeps t u := by
  intro r hr
  cases h with
  | insert done =>
    obtain ⟨-, -, rfl⟩ := insert_eq_ok done
    refine ⟨r, mem_rows.mpr ?_, rfl, fun _ => rfl⟩
    exact (place_perm _ _).mem_iff.mpr (List.mem_cons_of_mem _ (mem_rows.mp hr))
  | insertRow done => exact ⟨r, (mem_rows_insertRow done).mpr (Or.inr hr), rfl, fun _ => rfl⟩
  | @modify id _ f _ same =>
    refine ⟨_, mem_rows_modify.mpr ⟨r, hr, rfl⟩, ?_, fun gone => ?_⟩
    · split
      · exact same r
      · rfl
    · -- Changes pass over a row that is not live.
      rw [gone, Bool.and_false, if_neg nofun]

theorem Ordered.writes (h : t.Ordered) (hw : ReflTransGen Write t u) : u.Ordered := by
  induction hw with
  | refl => exact h
  | tail _ hlast ih => exact ih.write hlast

theorem keeps_of_writes (hw : ReflTransGen Write t u) : Keeps t u := by
  induction hw with
  | refl => exact .refl t
  | tail _ hlast ih => exact ih.trans hlast.keeps

end Table

/-! ## Operations -/

open Query Table

/-- Some writes to the table of a store, and nothing else. -/
def Written (s u : Store) : Prop := ∃ t, u = { s with table := t } ∧ ReflTransGen Write s.table t

theorem Written.refl (s : Store) : Written s s := ⟨s.table, rfl, .refl⟩

theorem Written.trans {s t u : Store} (h : Written s t) (h' : Written t u) : Written s u := by
  obtain ⟨v, rfl, hw⟩ := h
  obtain ⟨w, rfl, hw'⟩ := h'
  exact ⟨w, rfl, hw.trans hw'⟩

theorem Written.of_write {s : Store} {t : Table} (h : Write s.table t) :
    Written s { s with table := t } := ⟨t, rfl, .single h⟩

theorem Written.access {s u : Store} (h : Written s u) : u.access = s.access := by
  obtain ⟨t, rfl, -⟩ := h
  rfl

theorem Written.ordered {s u : Store} (h : Written s u) (hs : s.table.Ordered) :
    u.table.Ordered := by
  obtain ⟨t, rfl, hw⟩ := h
  exact hs.writes hw

theorem Written.keeps {s u : Store} (h : Written s u) : Keeps s.table u.table := by
  obtain ⟨t, rfl, hw⟩ := h
  exact keeps_of_writes hw

namespace Store

variable {s u : Store} {o : Offer} {os : List Offer} {id : UInt64}

theorem insert_written (hok : (insert o).on s = (.ok id, u)) : Written s u := by
  obtain ⟨-, c, key, t, -, hinsert, -, rfl⟩ := insert_eq_ok hok
  exact .of_write (.insert hinsert)

theorem insertAll_written (hok : (insertAll os).on s = (.ok (), u)) : Written s u :=
  insertAll_keeps .refl .trans insert_written hok

end Store

/-- An operation that has succeeded has answered what its query says. -/
theorem Query.map_eq_ok {α β : Type} {q : Query α} {g : α → β} {s u : Store} {b : β}
    (h : (g <$> q).on s = (.ok b, u)) : ∃ a, q.on s = (.ok a, u) ∧ g a = b := by
  rw [map_eq_pure_bind] at h
  obtain ⟨a, t, hq, hpure⟩ := bind_eq_ok.mp h
  cases hpure
  exact ⟨a, hq, rfl⟩

/-- The answer to an operation is that of its query. -/
theorem Query.map_answer {α β : Type} (q : Query α) (g : α → β) (s : Store) :
    ((g <$> q).on s).1 = (q.on s).1.map g := by
  rw [map_eq_pure_bind]
  rcases hq : q.on s with ⟨x, u⟩
  cases x with
  | ok a =>
    rw [on_bind_ok hq]
    rfl
  | error e =>
    rw [on_bind_error hq]
    rfl

/-- What is made of the answer does not matter to the store that a query leaves behind. -/
theorem Query.map_result {α β : Type} (q : Query α) (g : α → β) (s : Store) :
    ((g <$> q).on s).2 = (q.on s).2 := by
  rw [map_eq_pure_bind]
  rcases hq : q.on s with ⟨x, u⟩
  cases x with
  | ok a =>
    rw [on_bind_ok hq]
    rfl
  | error e => rw [on_bind_error hq]

theorem Operation.answer_create (o : Offer) (s : Store) :
    (Operation.create o).answer s = ((Store.insert o).on s).1.map .created :=
  map_answer (Store.insert o) Answer.created s

theorem Operation.result_create (o : Offer) (s : Store) :
    (Operation.create o).result s = ((Store.insert o).on s).2 :=
  map_result (Store.insert o) Answer.created s

theorem Operation.answer_createAll (os : List Offer) (s : Store) :
    (Operation.createAll os).answer s = ((Store.createAll os).on s).1.map .createdAll :=
  map_answer (Store.createAll os) Answer.createdAll s

theorem Operation.result_createAll (os : List Offer) (s : Store) :
    (Operation.createAll os).result s = ((Store.createAll os).on s).2 :=
  map_result (Store.createAll os) Answer.createdAll s

/-- What an operation has done that has succeeded. One that only reads has left all as it was. -/
inductive Operation.Done (s : Store) : Operation → Answer → Store → Prop
  | create {o : Offer} {id : UInt64} {u : Store} (inserted : (Store.insert o).on s = (.ok id, u)) :
      Done s (.create o) (.created id) u
  | createAll {os : List Offer} {u : Store}
      (inserted : (Store.insertAll os).on s = (.ok (), u)) :
      Done s (.createAll os) (.createdAll os.length) u
  | update {o : Offer} {r : Row} (storable : Storable o)
      (found : s.table.find? o.id.toInt64 = some r) :
      Done s (.update o) .done
        { s with table := s.table.modify o.id.toInt64 (Content.ofNumbers o).into }
  | remove {id : UInt64} {r : Row} (fits : id.toNat ≤ maxColumn)
      (found : s.table.find? id.toInt64 = some r) :
      Done s (.remove id) .done { s with table := s.table.modify id.toInt64 Row.marked }
  | insertRow {r : Row} {t : Table} (inserted : s.table.insertRow r = .ok t) :
      Done s (.insertRow r) .done { s with table := t }
  | describe {id : UInt64} {o : Offer} : Done s (.describe id) (.described o) s
  | list {w : Window} {os : List Offer} {info : PageInfo} : Done s (.list w) (.listed os info) s

/-- Every operation that succeeds has done what it should. -/
theorem Operation.done {op : Operation} {s : Store} {a : Answer} (h : op.answer s = .ok a) :
    Done s op a (op.result s) := by
  have hon : op.query.on s = (.ok a, op.result s) := by
    rw [← h]
    rfl
  generalize op.result s = u at hon
  cases op with
  | create o =>
    obtain ⟨id, hok, rfl⟩ := map_eq_ok hon
    exact .create hok
  | createAll os =>
    obtain ⟨n, hok, rfl⟩ := map_eq_ok hon
    obtain ⟨rfl, hinserted⟩ := Store.createAll_eq_ok hok
    exact .createAll hinserted
  | update o =>
    obtain ⟨⟨⟩, hok, rfl⟩ := map_eq_ok hon
    obtain ⟨-, c, key, r, hc, hkey, found, rfl⟩ := Store.update_eq_ok hok
    obtain ⟨storable, rfl⟩ := Content.ofOffer_eq_ok hc
    obtain ⟨-, rfl⟩ := column_eq_ok hkey
    exact .update storable found
  | remove id =>
    obtain ⟨⟨⟩, hok, rfl⟩ := map_eq_ok hon
    obtain ⟨-, key, r, hkey, found, rfl⟩ := Store.remove_eq_ok hok
    obtain ⟨fits, rfl⟩ := column_eq_ok hkey
    exact .remove fits found
  | insertRow r =>
    obtain ⟨⟨⟩, hok, rfl⟩ := map_eq_ok hon
    obtain ⟨-, t, hinsert, rfl⟩ := Store.insertRow_eq_ok hok
    exact .insertRow hinsert
  | describe id =>
    obtain ⟨o, hok, rfl⟩ := map_eq_ok hon
    rw [(Store.describe_reads id).eq_of_on hok]
    exact .describe
  | list w =>
    obtain ⟨p, hok, rfl⟩ := map_eq_ok hon
    rw [(Store.list_reads w).eq_of_on hok]
    exact .list

/-- Every operation comes to some writes, or to none. -/
theorem Operation.written (op : Operation) (s : Store) : Written s (op.result s) := by
  cases hanswer : op.answer s with
  | error e =>
    rw [op.result_of_error hanswer]
    exact .refl s
  | ok a =>
    have hdone := Operation.done hanswer
    generalize op.result s = u at hdone
    cases hdone with
    | create inserted => exact Store.insert_written inserted
    | createAll inserted => exact Store.insertAll_written inserted
    | update _ found => exact .of_write (.modify found fun _ => rfl)
    | remove _ found => exact .of_write (.modify found fun _ => rfl)
    | insertRow inserted => exact .of_write (.insertRow inserted)
    | describe => exact .refl s
    | list => exact .refl s

/-! ## Histories -/

theorem after_append (s : Store) (ops later : List Operation) :
    after s (ops ++ later) = after (after s ops) later := by
  induction ops generalizing s with
  | nil => rfl
  | cons op ops ih => exact ih (op.result s)

theorem written_after (s : Store) (ops : List Operation) : Written s (after s ops) := by
  induction ops generalizing s with
  | nil => exact .refl s
  | cons op ops ih => exact (op.written s).trans (ih (op.result s))

/-- A database can be reached as long as its pool is open. -/
theorem ready_after (ops : List Operation) : (after {} ops).access = .ready :=
  (written_after {} ops).access

theorem ordered_after (ops : List Operation) : (after {} ops).table.Ordered :=
  (written_after {} ops).ordered ordered_empty

end OfferService.Storage
