import Mathlib.Data.List.Count
import OfferService.Proofs.Storage.Fresh
import OfferService.Proofs.Storage.Pages

/-
  OfferService.Proofs.Storage.Live

  Which offers there are. Every statement about offers has its own condition for that, and they all
  agree with one another and with the table: an offer is there if the row of its id has no mark.
  Once it has one, it has it for good, and nothing else in its row changes either.
-/
namespace OfferService.Storage

open Table

/-! ## Live offers -/

/-- The row of that id is there, and is not marked as removed. -/
def Table.Live (t : Table) (id : UInt64) : Prop :=
  ∃ r ∈ t.rows, r.id = id.toInt64 ∧ r.isDeleted = 0

instance (t : Table) (id : UInt64) : Decidable (t.Live id) :=
  inferInstanceAs (Decidable (∃ r ∈ t.rows, r.id = id.toInt64 ∧ r.isDeleted = 0))

namespace Table

variable {t : Table} {id : UInt64} {r : Row}

theorem isLive_iff : r.isLive = true ↔ r.isDeleted = 0 := by
  rw [Row.isLive, beq_iff_eq]

theorem isLive_eq_false_iff : r.isLive = false ↔ r.isDeleted ≠ 0 := by
  rw [← Bool.not_eq_true, isLive_iff]

/-- Whoever looks for a live row finds it. -/
theorem live_iff : t.Live id ↔ (t.find? id.toInt64).isSome = true := by
  rw [isSome_find?]
  simp only [Live, isLive_iff]

/-- The ids of the live offers, as they are listed. -/
theorem mem_listed : id ∈ (t.live.map Row.toOffer).map Offer.id ↔ t.Live id := by
  simp only [List.map_map, List.mem_map, live, List.mem_filter, Live, isLive_iff]
  constructor
  · rintro ⟨r, ⟨hr, hzero⟩, rfl⟩
    exact ⟨r, hr, (Int64.toInt64_toUInt64 r.id).symm, hzero⟩
  · rintro ⟨r, hr, hid, hzero⟩
    refine ⟨r, ⟨hr, hzero⟩, ?_⟩
    show r.id.toUInt64 = id
    rw [hid, UInt64.toUInt64_toInt64]

/-- No id is listed twice. -/
theorem Ordered.nodup_listed (h : t.Ordered) : ((t.live.map Row.toOffer).map Offer.id).Nodup := by
  have hrows : t.rows.Pairwise fun a b => a.id < b.id := List.pairwise_reverse.mpr h.sorted
  rw [List.map_map]
  refine List.pairwise_map.mpr ((hrows.filter _).imp ?_)
  intro a b hlt same
  have hid : a.id = b.id := by
    rw [← Int64.toInt64_toUInt64 a.id, ← Int64.toInt64_toUInt64 b.id]
    exact congrArg UInt64.toInt64 same
  rw [hid] at hlt
  exact Int64.lt_irrefl hlt

end Table

/-! ## One notion of a live offer -/

/-- What can be learnt and done about an id that a column can hold agrees with its row. Pages are
    counted in numbers of a column, so there must not be more rows than those tell apart. -/
structure Agree (s : Store) (id : UInt64) : Prop where
  described : (∃ o, ((Store.describe id).on s).1 = .ok o) ↔ s.table.Live id
  /-- Pages of any size can be read up to the last one. -/
  read : ∀ take : UInt32, take ≠ 0 → s.table.live.length ≤ maxColumn →
    ∃ answers, Browses s take 0 answers
  /-- The offer is on one of the pages, and on that once, or on none. -/
  listed : ∀ take answers, s.table.live.length ≤ maxColumn → Browses s take 0 answers →
    ((answers.flatMap Prod.fst).map Offer.id).count id = if s.table.Live id then 1 else 0
  updated : ∀ o, o.id = id → Storable o →
    (((Store.update o).on s).1 = .ok () ↔ s.table.Live id)
  removed : ((Store.remove id).on s).1 = .ok () ↔ s.table.Live id

/-- A reader who gets an answer has asked for pages of some size. -/
theorem Browses.take_ne_zero {s : Store} {take : UInt32} {skip : UInt64}
    {answers : List (List Offer × PageInfo)} (h : Browses s take skip answers) : take ≠ 0 := by
  have hanswer : ∃ p, ((Store.list { take, skip }).on s).1 = .ok p := by
    cases h with
    | last answer _ => exact ⟨_, answer⟩
    | next answer _ _ => exact ⟨_, answer⟩
  intro empty
  obtain ⟨p, hp⟩ := hanswer
  rw [Store.list_of_empty empty] at hp
  cases hp

theorem agree_of_ordered {s : Store} {id : UInt64} (ready : s.access = .ready)
    (ordered : s.table.Ordered) (fits : id.toNat ≤ maxColumn) : Agree s id where
  described := by
    rw [Store.describe_on ready fits, live_iff]
    cases s.table.find? id.toInt64 with
    | some r => simp
    | none => simp
  read := fun take some count => (browses_all ready some count).1
  listed := by
    intro take answers count h
    rw [(browses_all ready h.take_ne_zero count).2 answers h]
    split
    · rename_i live
      exact List.count_eq_one_of_mem ordered.nodup_listed (mem_listed.mpr live)
    · rename_i gone
      exact List.count_eq_zero.mpr (mt mem_listed.mp gone)
  updated := by
    rintro o rfl storable
    rw [Store.update_on ready storable fits, live_iff]
    cases s.table.find? o.id.toInt64 with
    | some r => simp
    | none => simp
  removed := by
    rw [Store.remove_on ready fits, live_iff]
    cases s.table.find? id.toInt64 with
    | some r => simp
    | none => simp

/-! ## How many there are -/

/-- How many rows an operation brings with it. -/
def Operation.brings : Operation → Nat
  | .create _ | .insertRow _ => 1
  | .createAll os => os.length
  | _ => 0

/-- There are no rows but those that were brought. -/
theorem Operation.length_rows_le (op : Operation) {s : Store} (ordered : s.table.Ordered) :
    (op.result s).table.rows.length ≤ s.table.rows.length + op.brings := by
  cases hanswer : op.answer s with
  | error e =>
    rw [op.result_of_error hanswer]
    exact Nat.le_add_right _ _
  | ok a =>
    have hdone := Operation.done hanswer
    generalize op.result s = u at hdone
    cases hdone with
    | create inserted =>
      rw [(Store.insert_rows ordered inserted).1, List.length_append]
      exact Nat.le_refl _
    | createAll inserted =>
      rw [(Store.insertAll_rows ordered inserted).1, List.length_append, length_rowsAfter]
      exact Nat.le_refl _
    | @insertRow r t inserted =>
      obtain ⟨-, rfl⟩ := insertRow_eq_ok inserted
      rw [length_rows, length_rows]
      exact Nat.le_of_eq (place_perm r _).length_eq
    | update | remove =>
      rw [length_rows, length_rows]
      exact Nat.le_of_eq (List.length_map _)
    | describe | list => exact Nat.le_refl _

theorem length_rows_after_le (s : Store) (ops : List Operation) (ordered : s.table.Ordered) :
    (after s ops).table.rows.length ≤ s.table.rows.length + (ops.map Operation.brings).sum := by
  induction ops generalizing s with
  | nil => exact Nat.le_refl _
  | cons op ops ih =>
    have hfirst := op.length_rows_le ordered
    have hothers := ih (op.result s) ((op.written s).ordered ordered)
    rw [List.map_cons, List.sum_cons]
    show (after (op.result s) ops).table.rows.length ≤ _
    omega

theorem length_live_after_le (ops : List Operation) :
    (after {} ops).table.live.length ≤ (ops.map Operation.brings).sum := by
  have hrows := length_rows_after_le {} ops ordered_empty
  rw [show (Store.table {}).rows.length = 0 from rfl, Nat.zero_add] at hrows
  exact Nat.le_trans (List.length_filter_le _ _) hrows

/-! ## What is removed stays removed -/

/-- A row that is marked is not live again, whatever is written afterwards. -/
theorem not_live_of_keeps {t u : Table} {id : UInt64} {r : Row} (h : Keeps t u)
    (ordered : u.Ordered) (hr : r ∈ t.rows) (same : r.id = id.toInt64) (gone : r.isDeleted ≠ 0) :
    ¬ u.Live id := by
  rintro ⟨r', hr', hid', hzero⟩
  obtain ⟨r₁, hr₁, hid₁, hkept⟩ := h r hr
  rw [hkept (isLive_eq_false_iff.mpr gone)] at hr₁
  have heq : r' = r := ordered.eq_of_id hr' hr₁ (hid'.trans same.symm)
  exact gone (heq ▸ hzero)

/-- Whoever removes an offer finds it live, and leaves its row marked. -/
theorem exists_marked_of_removed {s : Store} {id : UInt64}
    (h : (Operation.remove id).answer s = .ok .done) :
    id.toNat ≤ maxColumn ∧ s.table.Live id ∧
      ∃ r ∈ ((Operation.remove id).result s).table.rows,
        r.id = id.toInt64 ∧ r.isDeleted ≠ 0 := by
  have hdone := Operation.done h
  generalize (Operation.remove id).result s = u at hdone
  cases hdone with | @remove _ r fits found =>
  obtain ⟨hr, hid, hlive⟩ := find?_eq_some found
  have hgone : r.marked.isDeleted ≠ 0 := by
    show (1 : Int64) ≠ 0
    decide
  refine ⟨fits, live_iff.mpr (by rw [found]; rfl), r.marked, ?_, hid, hgone⟩
  refine mem_rows_modify.mpr ⟨r, mem_rows.mpr hr, ?_⟩
  rw [if_pos (by simp [hid, hlive])]

/-- After every history of operations on a database that was empty at first, rows with ids of their
    own choice among them: everything that can be learnt and done about an id agrees with its row, and
    there are not more live offers than rows were brought. An offer that is removed was live, and it
    is not from then on, whatever is done afterwards. Every row stays, and remains the only one of its
    id; one that is marked as removed stays as it is. -/
theorem one_notion_of_live (ops : List Operation) :
    (∀ id : UInt64, id.toNat ≤ maxColumn → Agree (after {} ops) id) ∧
    (after {} ops).table.live.length ≤ (ops.map Operation.brings).sum ∧
    (∀ id more, (Operation.remove id).answer (after {} ops) = .ok .done →
      id.toNat ≤ maxColumn ∧ (after {} ops).table.Live id ∧
        ¬ (after {} (ops ++ .remove id :: more)).table.Live id) ∧
    ∀ more, ∀ r ∈ (after {} ops).table.rows,
      (∃! r', r' ∈ (after {} (ops ++ more)).table.rows ∧ r'.id = r.id) ∧
        (r.isDeleted ≠ 0 → r ∈ (after {} (ops ++ more)).table.rows) := by
  refine ⟨?_, length_live_after_le ops, ?_, ?_⟩
  · intro id fits
    exact agree_of_ordered (ready_after ops) (ordered_after ops) fits
  · intro id more hremoved
    obtain ⟨fits, live, r, hr, same, gone⟩ := exists_marked_of_removed hremoved
    refine ⟨fits, live, ?_⟩
    have hkeeps := (written_after ((Operation.remove id).result (after {} ops)) more).keeps
    have hordered := ordered_after (ops ++ .remove id :: more)
    rw [after_append] at hordered ⊢
    exact not_live_of_keeps hkeeps hordered hr same gone
  · intro more r hr
    have hkeeps := (written_after (after {} ops) more).keeps
    rw [← after_append] at hkeeps
    obtain ⟨r', hr', same, hkept⟩ := hkeeps r hr
    refine ⟨⟨r', ⟨hr', same⟩, ?_⟩, ?_⟩
    · rintro r₂ ⟨hr₂, same₂⟩
      exact (ordered_after (ops ++ more)).eq_of_id hr₂ hr' (same₂.trans same.symm)
    · intro gone
      rw [hkept (isLive_eq_false_iff.mpr gone)] at hr'
      exact hr'

/-- Of two offers that were created together the first is removed, and then neither updated nor
    removed again; rows with ids of their own choice are there too, one of them with another mark. -/
theorem one_notion_of_live_first_of_two :
    let before : List Operation := [.createAll [.fresh 7 3 5, .fresh 8 3 5],
      .insertRow ⟨-3, 1, 1, 1, 0⟩, .insertRow ⟨9, 1, 1, 1, 2⟩]
    let later : List Operation := [.update { id := 1, userId := 9 }, .remove 1,
      .create (.fresh 9 3 5)]
    let s := after {} (before ++ .remove 1 :: later)
    (∃ o, ((Store.describe 2).on s).1 = .ok o) ∧ (¬ ∃ o, ((Store.describe 1).on s).1 = .ok o) ∧
      ((Store.remove 9).on s).1 ≠ .ok () ∧ (⟨9, 1, 1, 1, 2⟩ : Row) ∈ s.table.rows := by
  intro before later s
  have hremoved : (Operation.remove 1).answer (after {} before) = .ok .done := by
    decide +kernel
  have hmarked : (⟨9, 1, 1, 1, 2⟩ : Row) ∈ (after {} before).table.rows := by
    decide +kernel
  have hlive : s.table.Live 2 ∧ ¬ s.table.Live 9 := by
    decide +kernel
  obtain ⟨hagree, -, -⟩ := one_notion_of_live (before ++ .remove 1 :: later)
  obtain ⟨-, -, hgone, hkept⟩ := one_notion_of_live before
  obtain ⟨-, -, hnot⟩ := hgone 1 later hremoved
  obtain ⟨-, hrow⟩ := hkept (.remove 1 :: later) _ hmarked
  refine ⟨(hagree 2 (by decide)).described.mpr hlive.1, ?_, ?_, hrow (by decide)⟩
  · exact mt (hagree 1 (by decide)).described.mp hnot
  · exact mt (hagree 9 (by decide)).removed.mp hlive.2

end OfferService.Storage
