import Mathlib.Control.Monad.Basic
import OfferService.Proofs.Storage.Query

/-
  OfferService.Proofs.Storage.Rollback

  An operation on stored offers that fails changes nothing: neither a row, nor the id that the next
  offer will get. Single statements are checked before they change anything. A batch of offers is
  not: it fails with some of its offers inserted and ids used up, whichever offer is at fault, and
  it is the transaction around it that sets everything back.

  So a history of operations does not depend on those of its operations that fail.
-/
namespace OfferService.Storage

open Query

/-! ## Each operation -/

namespace Store

/-- What an offer needs is checked before the table is changed. -/
theorem insert_atomic (o : Offer) : Atomic (insert o) := by
  refine .of_reads (.ensure _) fun content => .of_reads .reach fun t => ?_
  split
  · exact (Certain.bind (.modify _) fun _ => .pure _).atomic
  · exact (Reads.throw _).atomic

theorem createAll_atomic (os : List Offer) : Atomic (createAll os) := by
  unfold createAll
  split
  · exact (Reads.pure _).atomic
  · exact (Atomic.transaction _).bind_certain fun _ => .pure _

/-- Without the transaction, offers of a batch that fails would stay. -/
example :
    ((insertAll [.fresh 7 3 5, .fresh 7 3 9223372036854775808]).on {}).2.table.issued = 1 := by
  decide +kernel

theorem update_atomic (o : Offer) : Atomic (update o) := by
  -- Whether the offer is there is the last check, and nothing has changed before it.
  refine .of_reads (.ensure _) fun content => .of_reads (.ensure _) fun id =>
    .of_reads .reach fun t => ?_
  simp only []
  split
  · exact .of_reads (.throw _) fun _ => (Certain.modify _).atomic
  · exact (Certain.modify _).atomic

theorem remove_atomic (id : UInt64) : Atomic (remove id) := by
  refine .of_reads (.ensure _) fun key => .of_reads .reach fun t => ?_
  simp only []
  split
  · exact .of_reads (.throw _) fun _ => (Certain.modify _).atomic
  · exact (Certain.modify _).atomic

theorem insertRow_atomic (r : Row) : Atomic (insertRow r) := by
  refine .of_reads .reach fun t => ?_
  split
  · exact (Certain.modify _).atomic
  · exact (Reads.throw _).atomic

theorem describe_reads (id : UInt64) : Reads (describe id) := by
  refine .bind (.ensure _) fun key => .bind .reach fun t => ?_
  split
  · exact .pure _
  · exact .throw _

theorem list_reads (w : Window) : Reads (list w) := by
  unfold list
  simp only []
  split
  · exact .bind (.throw _) fun _ => .bind .reach fun _ => .bind (.ensure _) fun _ => .pure _
  · exact .bind .reach fun _ => .bind (.ensure _) fun _ => .pure _

end Store

/-! ## Histories -/

/-- What can be done with stored offers. -/
inductive Operation where
  | create (o : Offer)
  | createAll (os : List Offer)
  | update (o : Offer)
  | remove (id : UInt64)
  | insertRow (r : Row)
  | describe (id : UInt64)
  | list (w : Window)

/-- What is answered to an operation that succeeds. -/
inductive Answer where
  | created (id : UInt64)
  | createdAll (count : Nat)
  | done
  | described (o : Offer)
  | listed (os : List Offer) (info : PageInfo)
  deriving DecidableEq

namespace Operation

/-- An operation with its answer. -/
def query : Operation → Query Answer
  | .create o => Answer.created <$> Store.create o
  | .createAll os => Answer.createdAll <$> Store.createAll os
  | .update o => (fun _ => .done) <$> Store.update o
  | .remove id => (fun _ => .done) <$> Store.remove id
  | .insertRow r => (fun _ => .done) <$> Store.insertRow r
  | .describe id => Answer.described <$> Store.describe id
  | .list w => (fun p => .listed p.1 p.2) <$> Store.list w

/-- The answer of an operation. -/
def answer (op : Operation) (s : Store) : Except Error Answer := (op.query.on s).1

/-- The store after an operation. -/
def result (op : Operation) (s : Store) : Store := (op.query.on s).2

theorem query_atomic (op : Operation) : Atomic op.query := by
  cases op with
  | create o => exact (Store.insert_atomic o).map _
  | createAll os => exact (Store.createAll_atomic os).map _
  | update o => exact (Store.update_atomic o).map _
  | remove id => exact (Store.remove_atomic id).map _
  | insertRow r => exact (Store.insertRow_atomic r).map _
  | describe id => exact (Store.describe_reads id).atomic.map _
  | list w => exact (Store.list_reads w).atomic.map _

/-- An operation that fails leaves the store as it was. -/
theorem result_of_error {op : Operation} {s : Store} {e : Error} (h : op.answer s = .error e) :
    op.result s = s := op.query_atomic s e h

end Operation

/-- The store after operations, one after another. -/
def after (s : Store) : List Operation → Store
  | [] => s
  | op :: ops => after (op.result s) ops

/-- What is answered to operations, one after another. -/
def answers (s : Store) : List Operation → List (Except Error Answer)
  | [] => []
  | op :: ops => op.answer s :: answers (op.result s) ops

/-- Those of the operations that succeed, one after another. -/
def successes (s : Store) : List Operation → List Operation
  | [] => []
  | op :: ops =>
    match op.answer s with
    | .ok _ => op :: successes (op.result s) ops
    | .error _ => successes (op.result s) ops

/-- Operations that fail can be left out of a history: the others leave the same store behind. -/
theorem after_successes (s : Store) (ops : List Operation) :
    after s (successes s ops) = after s ops := by
  induction ops generalizing s with
  | nil => rfl
  | cons op ops ih =>
    unfold successes
    split
    · exact ih (op.result s)
    · rename_i e he
      have hsame := op.result_of_error he
      calc after s (successes (op.result s) ops)
        _ = after s ops := by rw [hsame, ih s]
        _ = after (op.result s) ops := by rw [hsame]

/-- The others are answered the same, too; new offers get the same ids. -/
theorem answers_successes (s : Store) (ops : List Operation) :
    answers s (successes s ops) = (answers s ops).filter Except.isOk := by
  induction ops generalizing s with
  | nil => rfl
  | cons op ops ih =>
    have hcons : answers s (op :: ops) = op.answer s :: answers (op.result s) ops := rfl
    unfold successes
    split
    · rename_i a ha
      have hkept : answers s (op :: successes (op.result s) ops) =
          op.answer s :: answers (op.result s) (successes (op.result s) ops) := rfl
      rw [hkept, hcons, ih, ha]
      rfl
    · rename_i e he
      have hsame := op.result_of_error he
      rw [hcons, hsame, ih s, he]
      rfl

/-- In every history of operations on stored offers, whatever was there at its beginning: an
    operation that fails, for whichever reason and however far it got, leaves the rows, the next id
    and the way to reach them as they were; and all others go as if it had never been asked for. -/
theorem failed_operations_change_nothing (s : Store) (ops : List Operation) :
    (∀ (op : Operation) e, op.answer (after s ops) = .error e →
        op.result (after s ops) = after s ops) ∧
      after s (successes s ops) = after s ops ∧
      answers s (successes s ops) = (answers s ops).filter Except.isOk :=
  ⟨fun _ _ he => Operation.result_of_error he, after_successes s ops, answers_successes s ops⟩

/-- The last offer of a batch is too large for a column, and the ids run out in the middle of
    another batch; the offer after them gets the id that it would have got without. -/
theorem failed_operations_change_nothing_middle_of_batch :
    let s : Store := { table := { issued := maxColumn - 2 } }
    let small : Offer := .fresh 7 3 5
    let large : Offer := .fresh 7 3 9223372036854775808
    let ops : List Operation := [.createAll [small, large], .create small,
      .createAll [small, small], .remove 4]
    let full : Operation := .createAll [small, small]
    answers s ops = [.error (.valueOutOfRange 9223372036854775808),
        .ok (.created 9223372036854775806), .error (.sql .full), .error (.offerNotFound 4)] ∧
      full.answer (after s ops) = .error (.sql .full) ∧
      full.result (after s ops) = after s ops ∧ after s [.create small] = after s ops := by
  intro s small large ops full
  have hanswers : answers s ops = [.error (.valueOutOfRange 9223372036854775808),
      .ok (.created 9223372036854775806), .error (.sql .full), .error (.offerNotFound 4)] := by
    decide +kernel
  have hfull : full.answer (after s ops) = .error (.sql .full) := by
    decide +kernel
  obtain ⟨hfailed, hafter, -⟩ := failed_operations_change_nothing s ops
  exact ⟨hanswers, hfull, hfailed full _ hfull, hafter⟩

end OfferService.Storage
