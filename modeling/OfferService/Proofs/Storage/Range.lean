import OfferService.Proofs.Storage.Rollback
import OfferService.Proofs.Storage.Success

/-
  OfferService.Proofs.Storage.Range

  Which offers can be stored. The numbers of an offer have 64 bits without a sign, and columns 64
  bits with one; so storage refuses an offer with a larger number wherever it stands in a batch, and
  the whole batch with it. A store in good order, with ids to spare, takes all other batches.
-/
namespace OfferService.Storage

open Query

/-! ## Columns -/

/-- Columns can hold the numbers of the offer. -/
def Storable (o : Offer) : Prop :=
  o.userId.toNat ≤ maxColumn ∧ o.teamId.toNat ≤ maxColumn ∧ o.grade.toNat ≤ maxColumn

instance : DecidablePred Storable := fun _ => inferInstanceAs (Decidable (_ ∧ _ ∧ _))

theorem column_of_le {n : UInt64} (h : n.toNat ≤ maxColumn) : column n = .ok n.toInt64 := by
  rw [column, if_pos h]

theorem column_of_not_le {n : UInt64} (h : ¬ n.toNat ≤ maxColumn) :
    column n = .error (.valueOutOfRange n) := by
  rw [column, if_neg h]

/-- Can no column hold this number? -/
def isTooLarge (n : UInt64) : Bool := decide (maxColumn < n.toNat)

theorem isTooLarge_iff {n : UInt64} : isTooLarge n = true ↔ ¬ n.toNat ≤ maxColumn := by
  rw [isTooLarge, decide_eq_true_iff, Nat.not_le]

/-- A column holds each number but those that are too large. -/
theorem column_eq (n : UInt64) :
    column n = if isTooLarge n then .error (.valueOutOfRange n) else .ok n.toInt64 := by
  by_cases large : isTooLarge n = true
  · rw [if_pos large, column_of_not_le (isTooLarge_iff.mp large)]
  · rw [if_neg large, column_of_le (not_not.mp (mt isTooLarge_iff.mpr large))]

/-- The numbers of an offer that its writer chooses, in the order in which they are stored. -/
def numbers (o : Offer) : List UInt64 := [o.userId, o.teamId, o.grade]

theorem storable_iff {o : Offer} : Storable o ↔ (numbers o).find? isTooLarge = none := by
  simp [Storable, numbers, isTooLarge]

/-- The content of an offer all of whose numbers fit. -/
def Content.ofNumbers (o : Offer) : Content :=
  { userId := o.userId.toInt64, teamId := o.teamId.toInt64, grade := o.grade.toInt64 }

/-- An offer has a content, unless one of its numbers is too large; the first such is named. -/
theorem Content.ofOffer_eq (o : Offer) : Content.ofOffer o =
    match (numbers o).find? isTooLarge with
    | some n => .error (.valueOutOfRange n)
    | none => .ok (ofNumbers o) := by
  unfold Content.ofOffer numbers
  rw [column_eq, column_eq, column_eq]
  -- The columns are written one after another, and the first that fails is the first found.
  cases huser : isTooLarge o.userId with
  | true => simp [huser, bind, Except.bind]
  | false =>
    cases hteam : isTooLarge o.teamId with
    | true => simp [huser, hteam, bind, Except.bind]
    | false =>
      cases hgrade : isTooLarge o.grade with
      | true => simp [huser, hteam, hgrade, bind, Except.bind]
      | false => simp [huser, hteam, hgrade, bind, Except.bind, ofNumbers]

theorem Content.ofOffer_of_storable {o : Offer} (h : Storable o) :
    Content.ofOffer o = .ok (ofNumbers o) := by
  rw [ofOffer_eq, storable_iff.mp h]

theorem Content.ofOffer_eq_ok {o : Offer} {c : Content} (h : Content.ofOffer o = .ok c) :
    Storable o ∧ c = ofNumbers o := by
  rw [ofOffer_eq] at h
  split at h
  · cases h
  · rename_i fits
    cases h
    exact ⟨storable_iff.mpr fits, rfl⟩

namespace Store

variable {s t : Store} {o : Offer} {os : List Offer}

/-! ## One offer -/

theorem on_reach_of_ready (ready : s.access = .ready) : reach.on s = (.ok s.table, s) := by
  rw [on_reach, reached, ready]

/-- Of an offer that has a number too large nothing is stored, whatever the state of the store. -/
theorem insert_of_tooLarge {n : UInt64} (large : (numbers o).find? isTooLarge = some n)
    (s : Store) : (insert o).on s = (.error (.valueOutOfRange n), s) := by
  refine on_bind_error ?_
  rw [on_ensure, Content.ofOffer_eq, large]

/-- An offer that can be stored gets the next id, if there is one. -/
theorem insert_on (ready : s.access = .ready) (h : Storable o) : (insert o).on s =
    match s.table.insert (Content.ofNumbers o) with
    | .ok (id, t) => (.ok id.toUInt64, { s with table := t })
    | .error e => (.error (.sql e), s) := by
  have hcheck : (ensure (Content.ofOffer o)).on s = (.ok (Content.ofNumbers o), s) := by
    rw [on_ensure, Content.ofOffer_of_storable h]
  unfold insert
  rw [on_bind_ok hcheck, on_bind_ok (on_reach_of_ready ready)]
  cases s.table.insert (Content.ofNumbers o) with
  | ok p => rfl
  | error e => rfl

theorem storable_of_insert {id : UInt64} (h : (insert o).on s = (.ok id, t)) : Storable o := by
  obtain ⟨-, c, -, -, hc, -⟩ := insert_eq_ok h
  exact (Content.ofOffer_eq_ok hc).1

/-- A store in good order with an id to spare takes an offer. -/
theorem insert_of_storable (ready : s.access = .ready) (room : s.table.issued < maxColumn)
    (h : Storable o) : ∃ id t, (insert o).on s = (.ok id, t) ∧ t.access = .ready ∧
      t.table.issued = s.table.issued + 1 := by
  rw [insert_on ready h, Table.insert, if_pos room]
  exact ⟨_, _, rfl, ready, rfl⟩

/-! ## A batch -/

theorem storable_of_insertAll (h : (insertAll os).on s = (.ok (), t)) : ∀ o ∈ os, Storable o := by
  induction os generalizing s with
  | nil => exact nofun
  | cons o os ih =>
    obtain ⟨id, u, hfirst, hrest⟩ := insertAll_cons_eq_ok h
    intro o' ho'
    rcases List.mem_cons.mp ho' with rfl | hlater
    · exact storable_of_insert hfirst
    · exact ih hrest o' hlater

theorem all_storable_iff :
    (∀ o ∈ os, Storable o) ↔ (os.flatMap numbers).find? isTooLarge = none := by
  induction os with
  | nil => simp
  | cons o os ih =>
    rw [List.forall_mem_cons, ih, List.flatMap_cons, List.find?_append, storable_iff]
    exact Option.or_eq_none_iff.symm

/-- Offers are inserted up to the first that cannot be stored, as long as there are ids for them. The
    number that is too large is named. -/
theorem insertAll_answer (ready : s.access = .ready) (bounded : s.table.issued ≤ maxColumn) :
    ((insertAll os).on s).1 =
      if s.table.issued + (os.takeWhile (Storable ·)).length ≤ maxColumn then
        match (os.flatMap numbers).find? isTooLarge with
        | some n => .error (.valueOutOfRange n)
        | none => .ok ()
      else .error (.sql .full) := by
  induction os generalizing s with
  | nil =>
    rw [if_pos (by simpa using bounded)]
    rfl
  | cons o os ih =>
    rw [List.flatMap_cons, List.find?_append]
    cases hfirst : (numbers o).find? isTooLarge with
    | some n =>
      have hnot : ¬ decide (Storable o) = true := by
        rw [decide_eq_true_iff, storable_iff, hfirst]
        nofun
      rw [List.takeWhile_cons, if_neg hnot, if_pos (by simpa using bounded)]
      exact congrArg Prod.fst (on_bind_error (insert_of_tooLarge hfirst s))
    | none =>
      have hstorable := storable_iff.mpr hfirst
      rw [List.takeWhile_cons, if_pos (decide_eq_true hstorable), List.length_cons]
      by_cases room : s.table.issued < maxColumn
      · obtain ⟨id, u, hinsert, ready', hissued⟩ := insert_of_storable ready room hstorable
        have hrest := ih ready' (by omega)
        rw [hissued, Nat.add_assoc, Nat.add_comm 1] at hrest
        exact (congrArg Prod.fst (on_bind_ok hinsert)).trans hrest
      · have hnone : (insert o).on s = (.error (.sql .full), s) := by
          rw [insert_on ready hstorable, Table.insert, if_neg room]
        rw [if_neg (by omega)]
        exact congrArg Prod.fst (on_bind_error hnone)

theorem createAll_of_ne_nil (h : os ≠ []) :
    createAll os = (transaction (insertAll os) >>= fun _ => pure os.length) := by
  unfold createAll
  rw [if_neg (by simpa using h)]

/-- A batch with an offer that cannot be stored is refused by every store, and nothing of it is
    stored. -/
theorem createAll_refuses (ho : o ∈ os) (h : ¬ Storable o) (s : Store) :
    ∃ e, (createAll os).on s = (.error e, s) := by
  rcases hon : (createAll os).on s with ⟨r, t⟩
  cases r with
  | error e => exact ⟨e, by rw [(createAll_atomic os).eq_of_on hon]⟩
  | ok n =>
    obtain ⟨-, hinserted⟩ := createAll_eq_ok hon
    exact absurd (storable_of_insertAll hinserted o ho) h

/-- A batch is answered as the offers in it, one after another. -/
theorem createAll_answer (ready : s.access = .ready) (bounded : s.table.issued ≤ maxColumn) :
    ((createAll os).on s).1 =
      if s.table.issued + (os.takeWhile (Storable ·)).length ≤ maxColumn then
        match (os.flatMap numbers).find? isTooLarge with
        | some n => .error (.valueOutOfRange n)
        | none => .ok os.length
      else .error (.sql .full) := by
  by_cases hnil : os = []
  · rw [hnil, if_pos (by simpa using bounded)]
    rfl
  · have hmap : ((createAll os).on s).1 = ((insertAll os).on s).1.map fun _ => os.length := by
      have hopen : s.access ≠ .closed := by
        rw [ready]
        nofun
      rw [createAll_of_ne_nil hnil]
      rcases hinsert : (insertAll os).on s with ⟨r, t⟩
      cases r with
      | ok _ =>
        have htransaction : (transaction (insertAll os)).on s = (.ok (), t) := by
          rw [on_transaction, if_neg hopen, hinsert]
        rw [on_bind_ok htransaction]
        rfl
      | error e =>
        have htransaction : (transaction (insertAll os)).on s = (.error e, s) := by
          rw [on_transaction, if_neg hopen, hinsert]
        rw [on_bind_error htransaction]
        rfl
    rw [hmap, insertAll_answer ready bounded]
    split
    · split
      · rfl
      · rfl
    · rfl

/-- How a store in good order with ids to spare answers a batch. -/
def Fair (os : List Offer) (r : Except Error Nat) : Prop :=
  (∀ o ∈ os, Storable o) ∧ r = .ok os.length ∨
    (∃ o ∈ os, ¬ Storable o) ∧ ∃ n, r = .error (.valueOutOfRange n)

theorem createAll_fair (ready : s.access = .ready)
    (room : s.table.issued + os.length ≤ maxColumn) : Fair os ((createAll os).on s).1 := by
  have hle : (os.takeWhile (Storable ·)).length ≤ os.length :=
    (List.takeWhile_sublist _).length_le
  rw [createAll_answer ready (by omega), if_pos (by omega)]
  cases hlarge : (os.flatMap numbers).find? isTooLarge with
  | none => exact Or.inl ⟨all_storable_iff.mpr hlarge, rfl⟩
  | some n =>
    have bad : ¬ ∀ o ∈ os, Storable o := by
      rw [all_storable_iff, hlarge]
      nofun
    exact Or.inr ⟨by simpa using bad, n, rfl⟩

end Store

end OfferService.Storage
