import Mathlib.Algebra.GroupWithZero.Nat
import OfferService.Proofs.Lookup
import OfferService.Proofs.Storage.Arguments
import OfferService.Proofs.Storage.Fresh

/-
  OfferService.Proofs.Storage.LastWrite

  What is read is what was written last. A history of calls is read as a list of writes, each of an
  offer under an id: those of offers that were created, one by one or together, and those of offers
  that were updated. Every row has the content of the last write of its id, and no number in it
  differs from the one that was written, for none was stored that a column cannot hold.
-/
namespace OfferService.Storage

open Query Table

/-! ## Writes -/

/-- What an operation writes that succeeds: offers, each under an id. -/
def Operation.writes (op : Operation) (s : Store) : List (UInt64 × Offer) :=
  match op, op.answer s with
  | .create o, .ok (.created id) => [(id, o)]
  | .createAll os, .ok _ => ((op.given s).map Int64.toUInt64).zip os
  | .update o, .ok _ => [(o.id, o)]
  | _, _ => []

/-- The offers that an operation is to write. -/
def Operation.offers : Operation → List Offer
  | .create o => [o]
  | .createAll os => os
  | .update o => [o]
  | _ => []

/-- Nothing else is written. -/
theorem Operation.mem_offers {op : Operation} {s : Store} {p : UInt64 × Offer}
    (h : p ∈ op.writes s) : p.2 ∈ op.offers := by
  unfold writes at h
  split at h
  · cases List.mem_singleton.mp h
    exact List.mem_singleton_self _
  · exact (List.of_mem_zip h).2
  · cases List.mem_singleton.mp h
    exact List.mem_singleton_self _
  · cases h

/-- All that is written in the course of a history. -/
def writes (s : Store) : List Operation → List (UInt64 × Offer)
  | [] => []
  | op :: ops => op.writes s ++ writes (op.result s) ops

theorem exists_mem_offers {s : Store} {ops : List Operation} {p : UInt64 × Offer}
    (h : p ∈ writes s ops) : ∃ op ∈ ops, p.2 ∈ op.offers := by
  induction ops generalizing s with
  | nil => cases h
  | cons op ops ih =>
    rcases List.mem_append.mp h with h | h
    · exact ⟨op, List.mem_cons_self, op.mem_offers h⟩
    · obtain ⟨op', hop, ho⟩ := ih h
      exact ⟨op', List.mem_cons_of_mem _ hop, ho⟩

/-- The offer that was written last under an id. -/
def lastWrite (ops : List Operation) (id : UInt64) : Option Offer :=
  (entries id (writes {} ops)).getLast?

/-- An operation that creates offers writes them under the ids that come next. -/
theorem writes_of_creates {s : Store} {op : Operation} {os : List Offer} {a : Answer}
    (ordered : s.table.Ordered) (creates : op.Creates os) (hok : op.answer s = .ok a) :
    op.writes s = ((rowsAfter s.table.issued os).map fun r => r.id.toUInt64).zip os := by
  have hnumbered := numbered ordered creates hok
  have hdone := Operation.done hok
  cases creates with
  | one o =>
    generalize (Operation.create o).result s = u at hdone
    cases hdone with | create inserted =>
    obtain ⟨-, -, hid⟩ := Store.insert_rows ordered inserted
    simp only [Operation.writes, hok]
    rw [hid]
    rfl
  | all os =>
    simp only [Operation.writes, hok]
    rw [hnumbered.given, List.map_map]
    rfl

/-! ## Rows and writes -/

/-- Each row has an id that was given, so not zero, and the content that was written last under it. -/
def Reflects (t : Table) (ws : List (UInt64 × Offer)) : Prop :=
  ∀ r ∈ t.rows, 0 < r.id.toInt ∧ ∃ o, (entries r.id.toUInt64 ws).getLast? = some o ∧
    Storable o ∧ (Content.ofNumbers o).into r = r

theorem entries_concat_of_ne {ws : List (UInt64 × Offer)} {j k : UInt64} {o : Offer}
    (other : j ≠ k) : entries k (ws ++ [(j, o)]) = entries k ws := by
  rw [entries_append, entries_cons_of_ne other, entries_nil, List.append_nil]

theorem getLast?_entries_concat {ws : List (UInt64 × Offer)} {k : UInt64} {o : Offer} :
    (entries k (ws ++ [(k, o)])).getLast? = some o := by
  rw [entries_append, entries_cons_self, entries_nil, List.getLast?_concat]

theorem toUInt64_ne {id key : Int64} (h : id ≠ key) : id.toUInt64 ≠ key.toUInt64 := by
  intro same
  apply h
  rw [← Int64.toInt64_toUInt64 id, same, Int64.toInt64_toUInt64]

namespace Reflects

variable {s u : Store} {ws : List (UInt64 × Offer)} {o : Offer} {os : List Offer} {id : UInt64}

theorem insert (h : Reflects s.table ws) (ordered : s.table.Ordered)
    (hok : (Store.insert o).on s = (.ok id, u)) :
    Reflects u.table (ws ++ [((Int64.ofNat (s.table.issued + 1)).toUInt64, o)]) := by
  obtain ⟨hrows, room, -⟩ := Store.insert_rows ordered hok
  have hnew : (Int64.ofNat (s.table.issued + 1)).toInt = (s.table.issued + 1 : Nat) :=
    toInt_ofNat_of_le room
  intro r hr
  rw [hrows] at hr
  rcases List.mem_append.mp hr with hold | hlast
  · obtain ⟨hpos, w, hw, hrest⟩ := h r hold
    -- The new id is larger than that of any row, so it is no write to this one.
    have hne : Int64.ofNat (s.table.issued + 1) ≠ r.id := by
      intro same
      have hle := ordered.bounded r (mem_rows.mp hold)
      rw [← same] at hle
      omega
    refine ⟨hpos, w, ?_, hrest⟩
    rw [entries_concat_of_ne (toUInt64_ne hne), hw]
  · cases List.mem_singleton.mp hlast
    refine ⟨?_, o, getLast?_entries_concat, Store.storable_of_insert hok, rfl⟩
    show 0 < (Int64.ofNat (s.table.issued + 1)).toInt
    omega

/-- A batch is written offer by offer. -/
theorem insertAll (h : Reflects s.table ws) (ordered : s.table.Ordered)
    (hok : (Store.insertAll os).on s = (.ok (), u)) : Reflects u.table
      (ws ++ ((rowsAfter s.table.issued os).map fun r => r.id.toUInt64).zip os) := by
  induction os generalizing s ws with
  | nil =>
    cases hok
    rw [rowsAfter, List.map_nil, List.zip_nil_left, List.append_nil]
    exact h
  | cons o os ih =>
    obtain ⟨id, t, hfirst, hrest⟩ := Store.insertAll_cons_eq_ok hok
    obtain ⟨-, -, hissued⟩ := Store.insert_later hfirst
    have hall := ih (h.insert ordered hfirst) ((Store.insert_written hfirst).ordered ordered) hrest
    rw [hissued, List.append_assoc] at hall
    exact hall

/-- The one row of an id gets the new content. -/
theorem update {t : Table} {r₁ : Row} (h : Reflects t ws) (ordered : t.Ordered)
    (hstorable : Storable o) (found : t.find? o.id.toInt64 = some r₁) :
    Reflects (t.modify o.id.toInt64 (Content.ofNumbers o).into) (ws ++ [(o.id, o)]) := by
  obtain ⟨hr₁, hid₁, hlive₁⟩ := find?_eq_some found
  intro r' hr'
  obtain ⟨r, hr, rfl⟩ := mem_rows_modify.mp hr'
  obtain ⟨hpos, w, hw, hwstorable, hcontent⟩ := h r hr
  by_cases this : r.id = o.id.toInt64
  · -- The row that was found is live and the only one of its id, so this one was changed.
    have hsame : r = r₁ := ordered.eq_of_id hr (mem_rows.mpr hr₁) (this.trans hid₁.symm)
    have hlive : r.isLive = true := hsame ▸ hlive₁
    rw [if_pos (by simp [this, hlive])]
    refine ⟨hpos, o, ?_, hstorable, rfl⟩
    show (entries r.id.toUInt64 (ws ++ [(o.id, o)])).getLast? = some o
    rw [this, UInt64.toUInt64_toInt64]
    exact getLast?_entries_concat
  · have hne : o.id ≠ r.id.toUInt64 := by
      intro same
      exact this (by rw [same, Int64.toInt64_toUInt64])
    rw [if_neg (by simp [this])]
    refine ⟨hpos, w, ?_, hwstorable, hcontent⟩
    rw [entries_concat_of_ne hne, hw]

/-- A mark is no part of the content. -/
theorem remove {t : Table} (h : Reflects t ws) (key : Int64) :
    Reflects (t.modify key Row.marked) ws := by
  intro r' hr'
  obtain ⟨r, hr, rfl⟩ := mem_rows_modify.mp hr'
  obtain ⟨hpos, w, hw, hstorable, hcontent⟩ := h r hr
  split
  · refine ⟨hpos, w, hw, hstorable, ?_⟩
    exact congrArg Row.marked hcontent
  · exact ⟨hpos, w, hw, hstorable, hcontent⟩

/-- One operation. -/
theorem operation {op : Operation} (h : Reflects s.table ws) (ordered : s.table.Ordered)
    (call : op.isCall = true) : Reflects (op.result s).table (ws ++ op.writes s) := by
  cases hanswer : op.answer s with
  | error e =>
    have hnone : op.writes s = [] := by
      cases op <;> simp only [Operation.writes, hanswer]
    rw [op.result_of_error hanswer, hnone, List.append_nil]
    exact h
  | ok a =>
    have hdone := Operation.done hanswer
    generalize op.result s = u at hdone
    cases hdone with
    | create inserted =>
      rw [writes_of_creates ordered (.one _) hanswer]
      exact h.insert ordered inserted
    | createAll inserted =>
      rw [writes_of_creates ordered (.all _) hanswer]
      exact h.insertAll ordered inserted
    | update storable found =>
      simp only [Operation.writes, hanswer]
      exact h.update ordered storable found
    | remove _ _ =>
      simp only [Operation.writes, List.append_nil]
      exact h.remove _
    | insertRow => cases call
    | describe =>
      simp only [Operation.writes, List.append_nil]
      exact h
    | list =>
      simp only [Operation.writes, List.append_nil]
      exact h

/-- A history of calls. -/
theorem after {ops : List Operation} (h : Reflects s.table ws) (ordered : s.table.Ordered)
    (calls : ∀ op ∈ ops, op.isCall = true) :
    Reflects (after s ops).table (ws ++ writes s ops) := by
  induction ops generalizing s ws with
  | nil =>
    rw [writes, List.append_nil]
    exact h
  | cons op ops ih =>
    obtain ⟨call, later⟩ := List.forall_mem_cons.mp calls
    have hall := ih (h.operation ordered call) ((op.written s).ordered ordered) later
    rw [List.append_assoc] at hall
    exact hall

end Reflects

/-- A history of calls on a table that was empty at first. -/
theorem reflects_of_empty {s : Store} {ops : List Operation} (empty : s.table = {})
    (calls : ∀ op ∈ ops, op.isCall = true) : Reflects (after s ops).table (writes s ops) := by
  have hnothing : Reflects s.table [] := by
    rw [empty]
    nofun
  have hordered : s.table.Ordered := by
    rw [empty]
    exact ordered_empty
  exact hnothing.after hordered calls

theorem reflects_after {ops : List Operation} (calls : ∀ op ∈ ops, op.isCall = true) :
    Reflects (after {} ops).table (writes {} ops) := reflects_of_empty rfl calls

/-! ## Reading -/

/-- The offer that is read from a row with that content. -/
theorem toOffer_into {o : Offer} {r : Row} : ((Content.ofNumbers o).into r).toOffer =
    { o with id := r.id.toUInt64, isDeleted := !r.isLive } := by
  show Offer.mk _ o.userId.toInt64.toUInt64 o.teamId.toInt64.toUInt64 o.grade.toInt64.toUInt64 _ = _
  rw [UInt64.toUInt64_toInt64, UInt64.toUInt64_toInt64, UInt64.toUInt64_toInt64]
  rfl

/-- An offer that is read was written last. -/
theorem Reflects.describe {s : Store} {ws : List (UInt64 × Offer)} {id : UInt64} {o : Offer}
    (h : Reflects s.table ws) (ready : s.access = .ready)
    (hok : ((Store.describe id).on s).1 = .ok o) :
    ∃ w, (entries id ws).getLast? = some w ∧ o = { w with id := id, isDeleted := false } := by
  by_cases fits : id.toNat ≤ maxColumn
  · rw [Store.describe_on ready fits] at hok
    cases found : s.table.find? id.toInt64 with
    | none =>
      rw [found] at hok
      cases hok
    | some r =>
      rw [found] at hok
      cases hok
      obtain ⟨hr, hid, hlive⟩ := find?_eq_some found
      obtain ⟨-, w, hw, -, hcontent⟩ := h r (mem_rows.mpr hr)
      rw [hid, UInt64.toUInt64_toInt64] at hw
      refine ⟨w, hw, ?_⟩
      rw [← hcontent, toOffer_into, hid, UInt64.toUInt64_toInt64, hlive]
      rfl
  · rw [Store.describe_of_tooLarge fits] at hok
    cases hok

/-- The numbers of a row are those of the offer that was written last. -/
theorem Reflects.numbers {t : Table} {ws : List (UInt64 × Offer)} {r : Row} (h : Reflects t ws)
    (hr : r ∈ t.rows) : ∃ w, (entries r.id.toUInt64 ws).getLast? = some w ∧ Storable w ∧
      r.userId.toInt = w.userId.toNat ∧ r.teamId.toInt = w.teamId.toNat ∧
      r.grade.toInt = w.grade.toNat := by
  obtain ⟨-, w, hlast, ⟨user, team, grade⟩, hcontent⟩ := h r hr
  have huser : w.userId.toInt64 = r.userId := congrArg Row.userId hcontent
  have hteam : w.teamId.toInt64 = r.teamId := congrArg Row.teamId hcontent
  have hgrade : w.grade.toInt64 = r.grade := congrArg Row.grade hcontent
  refine ⟨w, hlast, ⟨user, team, grade⟩, ?_, ?_, ?_⟩
  · rw [← huser, toInt_toInt64_of_le user]
  · rw [← hteam, toInt_toInt64_of_le team]
  · rw [← hgrade, toInt_toInt64_of_le grade]

/-- No number of a row is negative. -/
theorem Reflects.nonneg {t : Table} {ws : List (UInt64 × Offer)} {r : Row} (h : Reflects t ws)
    (hr : r ∈ t.rows) : ∀ n ∈ [r.id, r.userId, r.teamId, r.grade], 0 ≤ n.toInt := by
  obtain ⟨w, -, -, user, team, grade⟩ := h.numbers hr
  have hpos := (h r hr).1
  simp only [List.forall_mem_cons]
  refine ⟨?_, ?_, ?_, ?_, nofun⟩ <;> omega

/-! ## Operations on other ids -/

/-- Tables with the same row of an id read the same there. -/
theorem find?_congr {t u : Table} {id : Int64} (ht : t.Ordered) (hu : u.Ordered)
    (same : ∀ r : Row, r.id = id → (r ∈ u.rows ↔ r ∈ t.rows)) : u.find? id = t.find? id := by
  apply Option.ext
  intro r
  rw [hu.find?_eq_some_iff, ht.find?_eq_some_iff]
  constructor
  · rintro ⟨hr, hid, hlive⟩
    exact ⟨(same r hid).mp hr, hid, hlive⟩
  · rintro ⟨hr, hid, hlive⟩
    exact ⟨(same r hid).mpr hr, hid, hlive⟩

theorem mem_rows_modify_of_ne {t : Table} {key : Int64} {f : Row → Row} {r : Row}
    (same : ∀ r, (f r).id = r.id) (other : r.id ≠ key) :
    r ∈ (t.modify key f).rows ↔ r ∈ t.rows := by
  rw [mem_rows_modify]
  constructor
  · rintro ⟨r₁, hr₁, rfl⟩
    by_cases hit : (r₁.id == key && r₁.isLive) = true
    · rw [if_pos hit, same] at other
      rw [beq_false_of_ne other, Bool.false_and] at hit
      cases hit
    · rw [if_neg hit]
      exact hr₁
  · intro hr
    exact ⟨r, hr, if_neg (by simp [other])⟩

/-- New rows have the ids under which their offers are written. -/
theorem mem_rows_of_creates {s : Store} {op : Operation} {os : List Offer} {a : Answer} {r : Row}
    (ordered : s.table.Ordered) (creates : op.Creates os) (hok : op.answer s = .ok a)
    (other : r.id.toUInt64 ∉ (op.writes s).map Prod.fst) :
    r ∈ (op.result s).table.rows ↔ r ∈ s.table.rows := by
  have hkeys : (op.writes s).map Prod.fst =
      (rowsAfter s.table.issued os).map fun r => r.id.toUInt64 := by
    rw [writes_of_creates ordered creates hok]
    exact List.map_fst_zip (by simp)
  rw [(numbered ordered creates hok).rows, List.mem_append]
  constructor
  · rintro (hold | hnew)
    · exact hold
    · rw [hkeys] at other
      exact absurd (List.mem_map_of_mem hnew) other
  · exact Or.inl

/-- A call leaves the rows alone that it neither writes nor removes. -/
theorem find?_of_other {s : Store} {op : Operation} {id : UInt64} (ordered : s.table.Ordered)
    (call : op.isCall = true) (other : id ∉ (op.writes s).map Prod.fst) (keep : op ≠ .remove id) :
    (op.result s).table.find? id.toInt64 = s.table.find? id.toInt64 := by
  cases hanswer : op.answer s with
  | error e => rw [op.result_of_error hanswer]
  | ok a =>
    refine find?_congr ordered ((op.written s).ordered ordered) fun r hid => ?_
    have hkey : r.id.toUInt64 = id := by rw [hid, UInt64.toUInt64_toInt64]
    have hdone := Operation.done hanswer
    generalize hu : op.result s = u at hdone
    cases hdone with
    | create => exact hu ▸ mem_rows_of_creates ordered (.one _) hanswer (hkey ▸ other)
    | createAll => exact hu ▸ mem_rows_of_creates ordered (.all _) hanswer (hkey ▸ other)
    | @update o =>
      have hne : o.id ≠ id := by
        rintro rfl
        apply other
        simp only [Operation.writes, hanswer]
        exact List.mem_singleton_self _
      refine mem_rows_modify_of_ne (fun _ => rfl) fun same => hne ?_
      rw [← hkey, same, UInt64.toUInt64_toInt64]
    | remove =>
      refine mem_rows_modify_of_ne (fun _ => rfl) fun same => keep ?_
      rw [← hkey, same, UInt64.toUInt64_toInt64]
    | insertRow => cases call
    | describe => exact Iff.rfl
    | list => exact Iff.rfl

/-- So it does not change what is read under other ids. -/
theorem describe_of_other {s : Store} {op : Operation} {id : UInt64} (ready : s.access = .ready)
    (ordered : s.table.Ordered) (call : op.isCall = true)
    (other : id ∉ (op.writes s).map Prod.fst) (keep : op ≠ .remove id) :
    ((Store.describe id).on (op.result s)).1 = ((Store.describe id).on s).1 := by
  by_cases fits : id.toNat ≤ maxColumn
  · have ready' : (op.result s).access = .ready := (op.written s).access.trans ready
    rw [Store.describe_on ready' fits, Store.describe_on ready fits,
      find?_of_other ordered call other keep]
    cases s.table.find? id.toInt64 with
    | some r => rfl
    | none => rfl
  · rw [Store.describe_of_tooLarge fits, Store.describe_of_tooLarge fits]

/-! ## Ids that are used up -/

/-- Only a call that creates offers uses ids up, one for each of them. -/
theorem Operation.issued_le {op : Operation} (call : op.isCall = true) (s : Store) :
    (op.result s).table.issued ≤ s.table.issued + op.needs := by
  cases hanswer : op.answer s with
  | error e =>
    rw [op.result_of_error hanswer]
    exact Nat.le_add_right _ _
  | ok a =>
    have hdone := Operation.done hanswer
    generalize op.result s = u at hdone
    cases hdone with
    | create inserted => exact Nat.le_of_eq (Store.insert_later inserted).2.2
    | createAll inserted => exact Nat.le_of_eq (Store.issued_insertAll inserted)
    | insertRow => cases call
    | _ => exact Nat.le_refl _

theorem issued_after_le (s : Store) {ops : List Operation}
    (calls : ∀ op ∈ ops, op.isCall = true) :
    (after s ops).table.issued ≤ s.table.issued + (ops.map Operation.needs).sum := by
  induction ops generalizing s with
  | nil => exact Nat.le_refl _
  | cons op ops ih =>
    obtain ⟨call, later⟩ := List.forall_mem_cons.mp calls
    have hfirst := Operation.issued_le call s
    have hothers := ih (op.result s) later
    rw [List.map_cons, List.sum_cons]
    show (after (op.result s) ops).table.issued ≤ _
    omega

/-! ## The last write -/

/-- After every history of calls on a database that was empty at first: an offer that is read has the
    id that was asked for, no mark, and the user, team and grade that were written last under that
    id. Calls for other ids do not change what is read; the ids of new offers and the marks of any
    offers that are handed in change nothing at all. A call with a number that no column can hold
    fails, and names the first such number, unless the ids run out before, which takes as many offers
    as a column has ids; and no row holds a negative number, so none was cut. -/
theorem reads_return_last_write (ops : List Operation) (calls : ∀ op ∈ ops, op.isCall = true) :
    let s := after {} ops
    (∀ id o, ((Store.describe id).on s).1 = .ok o → ∃ w, lastWrite ops id = some w ∧
      o = { id, userId := w.userId, teamId := w.teamId, grade := w.grade, isDeleted := false }) ∧
    (∀ (op : Operation) id, op.isCall = true → id ∉ (op.writes s).map Prod.fst → op ≠ .remove id →
      ((Store.describe id).on (op.result s)).1 = ((Store.describe id).on s).1) ∧
    (after {} (ops.map Operation.plain) = s ∧
      answers {} (ops.map Operation.plain) = answers {} ops) ∧
    (∀ (op : Operation) n, op.arguments.find? isTooLarge = some n → op.answer s =
      .error (if s.table.issued + op.ahead ≤ maxColumn then .valueOutOfRange n else .sql .full)) ∧
    s.table.issued ≤ (ops.map Operation.needs).sum ∧
    ∀ r ∈ s.table.rows, ∀ n ∈ [r.id, r.userId, r.teamId, r.grade], 0 ≤ n.toInt := by
  intro s
  have hready : s.access = .ready := ready_after ops
  have hordered : s.table.Ordered := ordered_after ops
  have hreflects : Reflects s.table (writes {} ops) := reflects_after calls
  refine ⟨fun id o hok => hreflects.describe hready hok, ?_, after_plain {} ops, ?_, ?_, ?_⟩
  · intro op id call other keep
    exact describe_of_other hready hordered call other keep
  · intro op n large
    exact op.refuses hready hordered.issued_le large
  · have hissued := issued_after_le {} calls
    rw [show (Store.table {}).issued = 0 from rfl, Nat.zero_add] at hissued
    exact hissued
  · intro r hr
    exact hreflects.nonneg hr

/-- Two offers are created together, with ids and marks of no effect; one is updated, and then in
    vain with a grade that is too large; the other is removed. -/
theorem reads_return_last_write_updated_offer :
    let made : List Offer := [{ id := 9, userId := 7, teamId := 3, grade := 5, isDeleted := true },
      { userId := 8, teamId := 3, grade := 9223372036854775807 }]
    let ops : List Operation := [.createAll made,
      .update { id := 2, userId := 9, teamId := 4, grade := 6, isDeleted := true },
      .update { id := 2, userId := 1, teamId := 1, grade := 9223372036854775808 }, .remove 1]
    let s := after {} ops
    ((Store.describe 2).on s).1 =
        .ok { id := 2, userId := 9, teamId := 4, grade := 6, isDeleted := false } ∧
      ((Store.describe 2).on ((Operation.create (.fresh 5 5 5)).result s)).1 =
        ((Store.describe 2).on s).1 ∧
      (Operation.createAll [.fresh 1 1 1, .fresh 1 18446744073709551615 9223372036854775808]).answer s =
        .error (.valueOutOfRange 18446744073709551615) := by
  intro made ops s
  have hcalls : ∀ op ∈ ops, op.isCall = true := by
    decide
  have hfound : (((Store.describe 2).on s).1.toOption).isSome = true := by
    decide +kernel
  have hlast : lastWrite ops 2 =
      some { id := 2, userId := 9, teamId := 4, grade := 6, isDeleted := true } := by
    decide +kernel
  obtain ⟨hread, hother, -, hrefused, -⟩ := reads_return_last_write ops hcalls
  refine ⟨?_, ?_, ?_⟩
  · cases hanswer : ((Store.describe 2).on s).1 with
    | error e =>
      rw [hanswer] at hfound
      cases hfound
    | ok o =>
      obtain ⟨w, hw, rfl⟩ := hread 2 o hanswer
      rw [hlast] at hw
      cases hw
      rfl
  · exact hother (.create (.fresh 5 5 5)) 2 rfl (by decide +kernel) nofun
  · refine (hrefused _ 18446744073709551615 (by decide +kernel)).trans ?_
    rw [if_pos (by decide +kernel)]

end OfferService.Storage
