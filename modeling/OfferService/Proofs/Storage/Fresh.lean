import Mathlib.Data.List.TakeWhile
import OfferService.Proofs.Storage.Order

/-
  OfferService.Proofs.Storage.Fresh

  The ids of new offers. Whatever was written to a table, with ids of its own choice or undone again,
  the next offer gets the id after the largest one that was ever committed, and offers that are
  created together get ids in a row, in the order of their list. So no id is given twice, not even
  that of an offer which was removed. When the ids run out, nothing is created.
-/
namespace OfferService.Storage

open Query Table

/-! ## New rows -/

/-- The rows of new offers, of which the first has the id after `top`. -/
def rowsAfter : (top : Nat) → List Offer → List Row
  | _, [] => []
  | top, o :: os => (Content.ofNumbers o).toRow (Int64.ofNat (top + 1)) :: rowsAfter (top + 1) os

@[simp] theorem length_rowsAfter (top : Nat) (os : List Offer) :
    (rowsAfter top os).length = os.length := by
  induction os generalizing top with
  | nil => rfl
  | cons o os ih => simp [rowsAfter, ih]

/-- The ids of new rows are consecutive. -/
theorem ids_rowsAfter {os : List Offer} {top : Nat} (fits : top + os.length ≤ maxColumn) :
    ((rowsAfter top os).map Row.id).map Int64.toInt =
      (List.range' (top + 1) os.length).map Int.ofNat := by
  induction os generalizing top with
  | nil => rfl
  | cons o os ih =>
    rw [List.length_cons] at fits
    have hfirst : (Int64.ofNat (top + 1)).toInt = Int.ofNat (top + 1) :=
      toInt_ofNat_of_le (by omega)
    have hrest := ih (show top + 1 + os.length ≤ maxColumn by omega)
    rw [List.length_cons, List.range'_succ, List.map_cons, ← hrest, ← hfirst]
    rfl

/-- Every new id comes after `top`. -/
theorem lt_of_mem_rowsAfter {os : List Offer} {top : Nat} {id : Int64}
    (fits : top + os.length ≤ maxColumn) (h : id ∈ (rowsAfter top os).map Row.id) :
    (top : Int) < id.toInt := by
  have hmem : id.toInt ∈ ((rowsAfter top os).map Row.id).map Int64.toInt := List.mem_map_of_mem h
  rw [ids_rowsAfter fits] at hmem
  obtain ⟨n, hn, heq⟩ := List.mem_map.mp hmem
  have hrange := List.mem_range'_1.mp hn
  have hint : (n : Int) = id.toInt := heq
  omega

namespace Store

variable {s u : Store} {o : Offer} {os : List Offer} {id : UInt64}

/-- An offer that is inserted comes after all others. -/
theorem insert_rows (h : s.table.Ordered) (hok : (insert o).on s = (.ok id, u)) :
    u.table.rows = s.table.rows ++ [(Content.ofNumbers o).toRow (Int64.ofNat (s.table.issued + 1))] ∧
      s.table.issued < maxColumn ∧ id = (Int64.ofNat (s.table.issued + 1)).toUInt64 := by
  obtain ⟨-, c, key, t, hc, hinsert, rfl, rfl⟩ := insert_eq_ok hok
  obtain ⟨-, rfl⟩ := Content.ofOffer_eq_ok hc
  obtain ⟨room, rfl, -⟩ := Table.insert_eq_ok hinsert
  exact ⟨h.rows_insert hinsert, room, rfl⟩

theorem insertAll_rows (h : s.table.Ordered) (hok : (insertAll os).on s = (.ok (), u)) :
    u.table.rows = s.table.rows ++ rowsAfter s.table.issued os ∧
      s.table.issued + os.length ≤ maxColumn := by
  induction os generalizing s with
  | nil =>
    cases hok
    exact ⟨(List.append_nil _).symm, h.issued_le⟩
  | cons o os ih =>
    obtain ⟨id, t, hfirst, hrest⟩ := insertAll_cons_eq_ok hok
    obtain ⟨hrow, -, -⟩ := insert_rows h hfirst
    obtain ⟨-, -, hissued⟩ := insert_later hfirst
    obtain ⟨hrows, fits⟩ := ih ((insert_written hfirst).ordered h) hrest
    -- The others are numbered from where the first one has left off.
    rw [hissued] at hrows fits
    refine ⟨?_, by rw [List.length_cons]; omega⟩
    rw [hrows, hrow, List.append_assoc]
    rfl

end Store

/-! ## Ids in the course of a history -/

/-- The operation creates these offers, if it succeeds. -/
inductive Operation.Creates : Operation → List Offer → Prop
  | one (o : Offer) : Creates (.create o) [o]
  | all (os : List Offer) : Creates (.createAll os) os

/-- The ids of all rows that there were at the beginning of a history, and after each of its
    operations. -/
def committed (s : Store) : List Operation → List Int64
  | [] => s.table.ids
  | op :: ops => s.table.ids ++ committed (op.result s) ops

/-- The ids that an operation gives to new offers, in the order in which they are listed. -/
def Operation.given (op : Operation) (s : Store) : List Int64 :=
  match op with
  | .create _ | .createAll _ => (op.result s).table.ids.filter fun id => id ∉ s.table.ids
  | _ => []

/-- The ids that were given to new offers in the course of a history. -/
def handedOut (s : Store) : List Operation → List Int64
  | [] => []
  | op :: ops => op.given s ++ handedOut (op.result s) ops

theorem Written.ids_subset {s u : Store} (h : Written s u) : s.table.ids ⊆ u.table.ids := by
  intro id hid
  obtain ⟨r, hr, rfl⟩ := mem_ids.mp hid
  obtain ⟨r', hr', same, -⟩ := h.keeps r hr
  exact mem_ids.mpr ⟨r', hr', same⟩

/-- An id that was ever committed is the id of a row still. -/
theorem committed_subset (s : Store) (ops : List Operation) :
    committed s ops ⊆ (after s ops).table.ids := by
  induction ops generalizing s with
  | nil => exact List.Subset.refl _
  | cons op ops ih =>
    refine List.append_subset.mpr ⟨?_, ih (op.result s)⟩
    exact (written_after s (op :: ops)).ids_subset

theorem subset_committed (s : Store) (ops : List Operation) :
    s.table.ids ⊆ committed s ops ∧ (after s ops).table.ids ⊆ committed s ops := by
  induction ops generalizing s with
  | nil => exact ⟨List.Subset.refl _, List.Subset.refl _⟩
  | cons op ops ih =>
    exact ⟨List.subset_append_left _ _,
      List.Subset.trans (ih (op.result s)).2 (List.subset_append_right _ _)⟩

/-- So the number of the largest id ever used is that of the largest ever committed. -/
theorem issued_after (ops : List Operation) :
    (after {} ops).table.issued = largest (committed {} ops) := by
  rw [(ordered_after ops).issued]
  exact Nat.le_antisymm (largest_mono (subset_committed {} ops).2)
    (largest_mono (committed_subset {} ops))

/-- An id that was handed out was committed. -/
theorem handedOut_subset (s : Store) (ops : List Operation) :
    handedOut s ops ⊆ committed s ops := by
  induction ops generalizing s with
  | nil => exact List.nil_subset _
  | cons op ops ih =>
    refine List.append_subset.mpr ⟨?_, List.subset_append_of_subset_right _ (ih (op.result s))⟩
    intro id hid
    refine List.mem_append_right _ ((subset_committed (op.result s) ops).1 ?_)
    unfold Operation.given at hid
    split at hid
    · exact List.mem_of_mem_filter hid
    · exact List.mem_of_mem_filter hid
    · cases hid

/-! ## Fresh ids -/

/-- How the new offers `os` are numbered that an operation creates, where `top` is the largest id
    that was ever committed. -/
structure Numbered (s : Store) (op : Operation) (os : List Offer) (top : Nat) : Prop where
  fits : top + os.length ≤ maxColumn
  /-- The new rows come after all others, in the order of the list. -/
  rows : (op.result s).table.rows = s.table.rows ++ rowsAfter top os
  given : op.given s = (rowsAfter top os).map Row.id
  /-- The id that is answered is the one that was given. -/
  answer : ∀ id, op.answer s = .ok (.created id) →
    op.given s = [id.toInt64] ∧ id.toNat = top + 1

/-- The ids that are new are those of the new rows. -/
theorem Table.Ordered.new_ids {t u : Table} {os : List Offer} (h : t.Ordered)
    (fits : t.issued + os.length ≤ maxColumn) (hrows : u.rows = t.rows ++ rowsAfter t.issued os) :
    u.ids.filter (fun id => id ∉ t.ids) = (rowsAfter t.issued os).map Row.id := by
  have hids : u.ids = t.ids ++ (rowsAfter t.issued os).map Row.id := by
    rw [ids, hrows, List.map_append]
    rfl
  have hold : t.ids.filter (fun id => id ∉ t.ids) = [] :=
    List.filter_eq_nil_iff.mpr fun id hid => by simpa using hid
  have hnew : ((rowsAfter t.issued os).map Row.id).filter (fun id => id ∉ t.ids) =
      (rowsAfter t.issued os).map Row.id := by
    refine List.filter_eq_self.mpr fun id hid => ?_
    have hlt := lt_of_mem_rowsAfter fits hid
    have hnot : id ∉ t.ids := by
      intro hmem
      have hle := le_largest hmem
      rw [← h.issued] at hle
      omega
    simpa using hnot
  rw [hids, List.filter_append, hold, hnew, List.nil_append]

theorem numbered {s : Store} {op : Operation} {os : List Offer} {a : Answer}
    (ordered : s.table.Ordered) (creates : op.Creates os) (hok : op.answer s = .ok a) :
    Numbered s op os s.table.issued := by
  have hdone := Operation.done hok
  generalize hu : op.result s = u at hdone
  cases creates with
  | one o =>
    cases hdone with | create inserted =>
    obtain ⟨hrows, room, hid⟩ := Store.insert_rows ordered inserted
    obtain ⟨-, hnat, -⟩ := Store.insert_later inserted
    have hgiven : Operation.given (.create o) s = (rowsAfter s.table.issued [o]).map Row.id := by
      rw [Operation.given, hu]
      exact ordered.new_ids room hrows
    refine ⟨room, by rw [hu]; exact hrows, hgiven, ?_⟩
    intro id' hid'
    rw [hok] at hid'
    cases hid'
    rw [hgiven, hid]
    exact ⟨rfl, by rw [← hid, hnat]⟩
  | all os =>
    cases hdone with | createAll inserted =>
    obtain ⟨hrows, fits⟩ := Store.insertAll_rows ordered inserted
    refine ⟨fits, by rw [hu]; exact hrows, ?_, ?_⟩
    · rw [Operation.given, hu]
      exact ordered.new_ids fits hrows
    · intro id hid
      rw [hok] at hid
      cases hid

/-- Offers that columns can hold are created if there are ids for them, and only then. -/
theorem answer_of_storable {s : Store} {op : Operation} {os : List Offer}
    (ready : s.access = .ready) (bounded : s.table.issued ≤ maxColumn) (creates : op.Creates os)
    (all : ∀ o ∈ os, Storable o) :
    (s.table.issued + os.length ≤ maxColumn → ∃ a, op.answer s = .ok a) ∧
      (maxColumn < s.table.issued + os.length → op.answer s = .error (.sql .full)) := by
  cases creates with
  | one o =>
    rw [Operation.answer_create, Store.insert_on ready (all o List.mem_cons_self), Table.insert]
    refine ⟨fun room => ?_, fun full => ?_⟩
    · have hroom : s.table.issued < maxColumn := room
      rw [if_pos hroom]
      exact ⟨_, rfl⟩
    · have hfull : ¬ s.table.issued < maxColumn := Nat.not_lt.mpr (Nat.le_of_lt_succ full)
      rw [if_neg hfull]
      rfl
  | all os =>
    have hwhole : os.takeWhile (Storable ·) = os :=
      List.takeWhile_eq_self_iff.mpr fun o ho => decide_eq_true (all o ho)
    rw [Operation.answer_createAll, Store.createAll_answer ready bounded, hwhole,
      Store.all_storable_iff.mp all]
    refine ⟨fun room => ?_, fun full => ?_⟩
    · rw [if_pos room]
      exact ⟨_, rfl⟩
    · rw [if_neg (Nat.not_le.mpr full)]
      rfl

/-- After every history of operations on a database that was empty at first, failed ones and rows
    with ids of their own choice among them: new offers get the ids that follow the largest one ever
    committed, in the order in which they are listed. Each is at least 1, and larger than every id of
    a row, past or present, and every id that was handed out before. Offers for which there are not
    enough ids are refused as a whole, and nothing changes; if their numbers are in order, they are
    created whenever there are enough. -/
theorem new_ids_follow_largest_committed (ops : List Operation) {op : Operation} {os : List Offer}
    (creates : op.Creates os) :
    let s := after {} ops
    let top := largest (committed {} ops)
    (∀ a, op.answer s = .ok a → Numbered s op os top ∧
      (op.given s).map Int64.toInt = (List.range' (top + 1) os.length).map Int.ofNat ∧
      ∀ id ∈ op.given s, 1 ≤ id.toInt ∧
        ∀ old ∈ s.table.ids ++ committed {} ops ++ handedOut {} ops, old < id) ∧
    (maxColumn < top + os.length → (∃ e, op.answer s = .error e) ∧ op.result s = s) ∧
    ((∀ o ∈ os, Storable o) →
      (top + os.length ≤ maxColumn → ∃ a, op.answer s = .ok a) ∧
      (maxColumn < top + os.length → op.answer s = .error (.sql .full))) := by
  intro s top
  have hordered : s.table.Ordered := ordered_after ops
  have htop : s.table.issued = top := issued_after ops
  refine ⟨?_, ?_, ?_⟩
  · intro a hok
    have hnumbered : Numbered s op os top := htop ▸ numbered hordered creates hok
    refine ⟨hnumbered, ?_, ?_⟩
    · rw [hnumbered.given]
      exact ids_rowsAfter hnumbered.fits
    · intro id hid
      rw [hnumbered.given] at hid
      have hlt := lt_of_mem_rowsAfter hnumbered.fits hid
      refine ⟨by omega, ?_⟩
      intro old hold
      -- Whatever is in the table or was handed out has been committed.
      have hcommitted : old ∈ committed {} ops := by
        rcases List.mem_append.mp hold with hold | hout
        · rcases List.mem_append.mp hold with hnow | hcommitted
          · exact (subset_committed {} ops).2 hnow
          · exact hcommitted
        · exact handedOut_subset {} ops hout
      have hle := le_largest hcommitted
      rw [Int64.lt_iff_toInt_lt]
      exact Int.lt_of_le_of_lt hle hlt
  · intro full
    cases hanswer : op.answer s with
    | ok a =>
      have fits := (numbered hordered creates hanswer).fits
      rw [htop] at fits
      omega
    | error e => exact ⟨⟨e, rfl⟩, op.result_of_error hanswer⟩
  · intro all
    rw [← htop]
    exact answer_of_storable (ready_after ops) hordered.issued_le creates all

/-- Rows that chose their ids leave three of them, a batch that is refused takes none, and an offer
    that was removed keeps the first one. A batch gets the two that remain, and then there are none. -/
theorem new_ids_follow_largest_committed_end_of_range :
    let small : Offer := .fresh 7 3 5
    let large : Offer := .fresh 7 3 9223372036854775808
    let ops : List Operation := [.insertRow ⟨-5, 1, 1, 1, 0⟩,
      .insertRow ⟨9223372036854775804, 1, 1, 1, 1⟩, .createAll [small, large], .create small,
      .remove 9223372036854775805]
    let batch : Operation := .createAll [small, small]
    answers {} ops = [.ok .done, .ok .done, .error (.valueOutOfRange 9223372036854775808),
        .ok (.created 9223372036854775805), .ok .done] ∧
      (batch.given (after {} ops)).map Int64.toInt = [9223372036854775806, 9223372036854775807] ∧
      (Operation.create small).answer (after {} (ops ++ [batch])) = .error (.sql .full) := by
  intro small large ops batch
  have hanswers : answers {} ops = [.ok .done, .ok .done,
      .error (.valueOutOfRange 9223372036854775808), .ok (.created 9223372036854775805),
      .ok .done] := by
    decide +kernel
  have hbatch : batch.answer (after {} ops) = .ok (.createdAll 2) := by
    decide +kernel
  have htop : largest (committed {} ops) = 9223372036854775805 := by
    decide +kernel
  have hlast : maxColumn < largest (committed {} (ops ++ [batch])) + [small].length := by
    decide +kernel
  have hsmall : ∀ o ∈ [small], Storable o := by
    simp [small, Storable, Offer.fresh, maxColumn]
  obtain ⟨hgiven, -⟩ := new_ids_follow_largest_committed ops (.all [small, small])
  obtain ⟨-, hids, -⟩ := hgiven _ hbatch
  obtain ⟨-, -, hroom⟩ := new_ids_follow_largest_committed (ops ++ [batch]) (.one small)
  obtain ⟨-, hfull⟩ := hroom hsmall
  refine ⟨hanswers, hids.trans ?_, hfull hlast⟩
  rw [htop]
  decide

end OfferService.Storage
