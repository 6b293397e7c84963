import OfferService.Proofs.Storage.Fresh

/-
  OfferService.Proofs.Storage.Batches

  Creating offers together, against creating them one after another. Each single creation is an
  operation of its own, which the next one follows even if it fails; a batch ends at the first offer
  that fails, and is undone. Up to that offer both do the same to the table, so the batch names the
  error that the first failing creation would, and a batch without one leaves the same rows and the
  same next id behind.
-/
namespace OfferService.Storage

open Query

variable {s : Store} {os : List Offer} {before later : List (Except Error Answer)}
  {e : Error}

/-! ## Single creations -/

/-- Creating these offers, each by an operation of its own. -/
def creates (os : List Offer) : List Operation := os.map .create

/-- The first answer and then the others, from the store that the first creation leaves. -/
theorem answers_creates_cons (s : Store) (o : Offer) (os : List Offer) :
    answers s (creates (o :: os)) = ((Store.insert o).on s).1.map .created ::
      answers ((Store.insert o).on s).2 (creates os) := by
  rw [← Operation.answer_create, ← Operation.result_create]
  rfl

theorem after_creates_cons (s : Store) (o : Offer) (os : List Offer) :
    after s (creates (o :: os)) = after ((Store.insert o).on s).2 (creates os) := by
  rw [← Operation.result_create]
  rfl

/-! ## One after another -/

namespace Store

/-- If all single creations succeed, offers are inserted one after another with the same effect. -/
theorem insertAll_of_successes (all : ∀ r ∈ answers s (creates os), r.isOk = true) :
    (insertAll os).on s = (.ok (), after s (creates os)) := by
  induction os generalizing s with
  | nil => rfl
  | cons o os ih =>
    rw [answers_creates_cons, List.forall_mem_cons] at all
    obtain ⟨hfirst, hothers⟩ := all
    rw [after_creates_cons]
    rcases hinsert : (insert o).on s with ⟨r, t⟩
    rw [hinsert] at hfirst hothers
    cases r with
    | error e => cases hfirst
    | ok id => exact (on_bind_ok hinsert).trans (ih hothers)

/-- If one fails, offers are inserted up to that one, and its error is the answer. -/
theorem insertAll_of_failure (failed : answers s (creates os) = before ++ .error e :: later)
    (good : ∀ r ∈ before, r.isOk = true) : ((insertAll os).on s).1 = .error e := by
  induction os generalizing s before with
  | nil => simp [creates, answers] at failed
  | cons o os ih =>
    rw [answers_creates_cons] at failed
    rcases hinsert : (insert o).on s with ⟨r, t⟩
    rw [hinsert] at failed
    cases before with
    | nil =>
      -- This is the offer that fails.
      obtain ⟨hfirst, -⟩ := List.cons.inj failed
      cases r with
      | ok id => cases hfirst
      | error e' =>
        cases hfirst
        exact congrArg Prod.fst (on_bind_error hinsert)
    | cons first before =>
      obtain ⟨rfl, hothers⟩ := List.cons.inj failed
      obtain ⟨hfirst, hgood⟩ := List.forall_mem_cons.mp good
      cases r with
      | error e' => cases hfirst
      | ok id => exact (congrArg Prod.fst (on_bind_ok hinsert)).trans (ih hothers hgood)

/-- The ids that single creations answer are those of the new rows. -/
theorem answers_of_insertAll {u : Store} (ordered : s.table.Ordered)
    (hok : (insertAll os).on s = (.ok (), u)) :
    answers s (creates os) =
      (rowsAfter s.table.issued os).map fun r => .ok (.created r.id.toUInt64) := by
  induction os generalizing s with
  | nil => rfl
  | cons o os ih =>
    obtain ⟨id, t, hfirst, hrest⟩ := insertAll_cons_eq_ok hok
    obtain ⟨-, -, hid⟩ := insert_rows ordered hfirst
    obtain ⟨-, -, hissued⟩ := insert_later hfirst
    have hothers := ih ((insert_written hfirst).ordered ordered) hrest
    rw [hissued] at hothers
    rw [answers_creates_cons, hfirst, hothers, hid]
    rfl

/-- A transaction of an open pool is what was done in it, or nothing. -/
theorem createAll_of_insertAll (opened : s.access ≠ .closed) :
    (createAll os).on s = match (insertAll os).on s with
      | (.ok (), u) => (.ok os.length, u)
      | (.error e, _) => (.error e, s) := by
  by_cases hnil : os = []
  · rw [hnil]
    rfl
  · have htransaction := on_transaction (insertAll os) s
    rw [if_neg opened] at htransaction
    rw [createAll_of_ne_nil hnil]
    rcases hinsert : (insertAll os).on s with ⟨r, u⟩
    rw [hinsert] at htransaction
    cases r with
    | ok _ => exact on_bind_ok htransaction
    | error e => exact on_bind_error htransaction

end Store

/-! ## The main result -/

/-- A batch of offers fares as single creations would, one after another. -/
structure FaresAlike (s : Store) (os : List Offer) : Prop where
  succeeds_iff : (∃ a, (Operation.createAll os).answer s = .ok a) ↔
    ∀ r ∈ answers s (creates os), r.isOk = true
  /-- All are created: with the same rows, the ids that single creations answer, and the same next
      id. -/
  created : (∀ r ∈ answers s (creates os), r.isOk = true) →
    (Operation.createAll os).answer s = .ok (.createdAll os.length) ∧
      (Operation.createAll os).result s = after s (creates os) ∧
      (after s (creates os)).table.rows = s.table.rows ++ rowsAfter s.table.issued os ∧
      answers s (creates os) =
        (rowsAfter s.table.issued os).map (fun r => .ok (.created r.id.toUInt64)) ∧
      (after s (creates os)).table.issued = s.table.issued + os.length
  /-- None is created, because of the first that fails. -/
  refused : ∀ before e later, answers s (creates os) = before ++ .error e :: later →
    (∀ r ∈ before, r.isOk = true) →
      (Operation.createAll os).answer s = .error e ∧ (Operation.createAll os).result s = s

/-- Answers that are not all good have a first bad one. -/
theorem exists_first_error {rs : List (Except Error Answer)} (h : ¬ ∀ r ∈ rs, r.isOk = true) :
    ∃ before e later, rs = before ++ .error e :: later ∧ ∀ r ∈ before, r.isOk = true := by
  induction rs with
  | nil => exact absurd nofun h
  | cons r rs ih =>
    cases r with
    | error e => exact ⟨[], e, rs, rfl, nofun⟩
    | ok a =>
      rw [List.forall_mem_cons, not_and] at h
      obtain ⟨before, e, later, rfl, hgood⟩ := ih (h rfl)
      exact ⟨.ok a :: before, e, later, rfl, List.forall_mem_cons.mpr ⟨rfl, hgood⟩⟩

/-- After every history of operations on a database that was empty at first, rows with ids of their
    own choice among them: offers are created together just if each of them could be created after
    those before it, with the same outcome; and otherwise not at all, for the reason for which the
    first of them could not be. -/
theorem createAll_agrees_with_creates (ops : List Operation) (os : List Offer) :
    FaresAlike (after {} ops) os := by
  have opened : (after {} ops).access ≠ .closed := by
    rw [ready_after]
    nofun
  have hordered := ordered_after ops
  generalize after {} ops = s at opened hordered
  have hbatch : (Store.createAll os).on s = _ := Store.createAll_of_insertAll opened
  have created : (∀ r ∈ answers s (creates os), r.isOk = true) →
      (Operation.createAll os).answer s = .ok (.createdAll os.length) ∧
        (Operation.createAll os).result s = after s (creates os) := by
    intro all
    rw [Operation.answer_createAll, Operation.result_createAll, hbatch,
      Store.insertAll_of_successes all]
    exact ⟨rfl, rfl⟩
  have refused : ∀ before e later, answers s (creates os) = before ++ .error e :: later →
      (∀ r ∈ before, r.isOk = true) →
        (Operation.createAll os).answer s = .error e ∧ (Operation.createAll os).result s = s := by
    intro before e later failed good
    have herror := Store.insertAll_of_failure failed good
    rcases hinsert : (Store.insertAll os).on s with ⟨r, u⟩
    rw [hinsert] at herror hbatch
    cases herror
    rw [Operation.answer_createAll, Operation.result_createAll, hbatch]
    exact ⟨rfl, rfl⟩
  refine ⟨⟨?_, fun all => ⟨_, (created all).1⟩⟩, fun all => ?_, refused⟩
  · rintro ⟨a, hok⟩
    by_contra bad
    obtain ⟨before, e, later, failed, good⟩ := exists_first_error bad
    rw [(refused before e later failed good).1] at hok
    cases hok
  · have hinserted := Store.insertAll_of_successes all
    obtain ⟨hcount, hleft⟩ := created all
    exact ⟨hcount, hleft, (Store.insertAll_rows hordered hinserted).1,
      Store.answers_of_insertAll hordered hinserted, Store.issued_insertAll hinserted⟩

/-- Two ids are left. Three offers run out of ids before the fourth is found to be too large;
    without the third one it is the number that is named, and nothing is created either way. Two
    offers get the ids that they would have got one by one. -/
theorem createAll_agrees_with_creates_end_of_range :
    let ops : List Operation := [.insertRow ⟨9223372036854775805, 1, 1, 1, 1⟩]
    let small : Offer := .fresh 7 3 5
    let large : Offer := .fresh 7 9223372036854775808 18446744073709551615
    let s := after {} ops
    (Operation.createAll [small, small, small, large]).answer s = .error (.sql .full) ∧
      (Operation.createAll [small, large, small]).answer s =
        .error (.valueOutOfRange 9223372036854775808) ∧
      (Operation.createAll [small, large, small]).result s = s ∧
      (Operation.createAll [small, small]).result s = after s (creates [small, small]) ∧
      answers s (creates [small, small]) =
        [.ok (.created 9223372036854775806), .ok (.created 9223372036854775807)] := by
  intro ops small large s
  have hfull : answers s (creates [small, small, small, large]) =
      [.ok (.created 9223372036854775806), .ok (.created 9223372036854775807)] ++
        .error (.sql .full) :: [.error (.valueOutOfRange 9223372036854775808)] := by
    decide +kernel
  have hlarge : answers s (creates [small, large, small]) =
      [.ok (.created 9223372036854775806)] ++ .error (.valueOutOfRange 9223372036854775808) ::
        [.ok (.created 9223372036854775807)] := by
    decide +kernel
  have hboth : answers s (creates [small, small]) =
      [.ok (.created 9223372036854775806), .ok (.created 9223372036854775807)] := by
    decide +kernel
  have hsecond := (createAll_agrees_with_creates ops [small, large, small]).refused _ _ _ hlarge
    (by decide)
  exact ⟨((createAll_agrees_with_creates ops [small, small, small, large]).refused _ _ _ hfull
      (by decide)).1, hsecond.1, hsecond.2,
    ((createAll_agrees_with_creates ops [small, small]).created (by rw [hboth]; decide)).2.1, hboth⟩

end OfferService.Storage
