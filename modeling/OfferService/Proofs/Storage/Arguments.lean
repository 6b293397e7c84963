import OfferService.Proofs.Storage.Order

/-
  OfferService.Proofs.Storage.Arguments

  What operations make of their arguments. Each number is checked when it is handed to the database,
  one after another, and the first one that no column can hold is named in the error. The id of a new
  offer and the mark of any offer are not looked at.
-/
namespace OfferService.Storage

open Query

/-- Rows with ids of their own choice are not written by calls. -/
def Operation.isCall : Operation → Bool
  | .insertRow _ => false
  | _ => true

/-! ## Numbers that are checked -/

/-- The numbers that an operation hands to the database, in their order. -/
def Operation.arguments : Operation → List UInt64
  | .create o => numbers o
  | .createAll os => os.flatMap numbers
  | .update o => numbers o ++ [o.id]
  | .remove id | .describe id => [id]
  | .list w => if w.take = 0 then [] else [w.skip]
  | .insertRow _ => []

/-- How many ids an operation needs before it comes to an offer that cannot be stored. -/
def Operation.ahead : Operation → Nat
  | .createAll os => (os.takeWhile (Storable ·)).length
  | _ => 0

/-- How many ids an operation needs. -/
def Operation.needs : Operation → Nat
  | .create _ => 1
  | .createAll os => os.length
  | _ => 0

/-- Offers up to one that cannot be stored need no more ids than all of them. -/
theorem Operation.ahead_le_needs (op : Operation) : op.ahead ≤ op.needs := by
  cases op with
  | createAll os => exact (List.takeWhile_sublist _).length_le
  | _ => exact Nat.zero_le _

/-- The first number that is too large is named, unless the ids run out before it is reached. -/
theorem Operation.refuses {op : Operation} {s : Store} {n : UInt64} (ready : s.access = .ready)
    (bounded : s.table.issued ≤ maxColumn) (large : op.arguments.find? isTooLarge = some n) :
    op.answer s = .error (if s.table.issued + op.ahead ≤ maxColumn
      then .valueOutOfRange n else .sql .full) := by
  have hone {m : UInt64} (h : [m].find? isTooLarge = some n) : ¬ m.toNat ≤ maxColumn ∧ m = n := by
    have hboth : isTooLarge m = true ∧ m = n := by simpa using h
    exact ⟨isTooLarge_iff.mp hboth.1, hboth.2⟩
  have alone (none : op.ahead = 0) (refused : op.answer s = .error (.valueOutOfRange n)) :
      op.answer s = .error (if s.table.issued + op.ahead ≤ maxColumn
        then .valueOutOfRange n else .sql .full) := by
    rw [none, Nat.add_zero, if_pos bounded, refused]
  -- Only a batch uses ids up before it comes to the number that is too large.
  cases op with
  | create o =>
    refine alone rfl ?_
    rw [answer, query, map_answer, Store.create, Store.insert_of_tooLarge large]
    rfl
  | createAll os =>
    have hfirst : (os.flatMap Storage.numbers).find? isTooLarge = some n := large
    rw [answer, query, map_answer, Store.createAll_answer ready bounded, hfirst, ahead]
    split
    · rfl
    · rfl
  | update o =>
    refine alone rfl ?_
    rw [answer, query, map_answer, Store.update_of_tooLarge large]
    rfl
  | remove id =>
    obtain ⟨hlarge, rfl⟩ := hone large
    refine alone rfl ?_
    rw [answer, query, map_answer, Store.remove_of_tooLarge hlarge]
    rfl
  | describe id =>
    obtain ⟨hlarge, rfl⟩ := hone large
    refine alone rfl ?_
    rw [answer, query, map_answer, Store.describe_of_tooLarge hlarge]
    rfl
  | list w =>
    refine alone rfl ?_
    rw [arguments] at large
    by_cases empty : w.take = 0
    · rw [if_pos empty] at large
      cases large
    · rw [if_neg empty] at large
      obtain ⟨hlarge, rfl⟩ := hone large
      rw [answer, query, map_answer, Store.list_of_tooLarge ready empty hlarge]
      rfl
  | insertRow r => cases large

/-! ## What is not looked at -/

/-- The operation without what it does not look at. -/
def Operation.plain : Operation → Operation
  | .create o => .create { o with id := 0, isDeleted := false }
  | .createAll os => .createAll (os.map fun o => { o with id := 0, isDeleted := false })
  | .update o => .update { o with isDeleted := false }
  | op => op

theorem Operation.query_plain (op : Operation) : op.plain.query = op.query := by
  cases op with
  | createAll os =>
    have hinsert : Store.insertAll (os.map fun o => { o with id := 0, isDeleted := false }) =
        Store.insertAll os := by
      induction os with
      | nil => rfl
      | cons o os ih =>
        rw [List.map_cons, Store.insertAll, ih]
        rfl
    show Answer.createdAll <$> Store.createAll _ = Answer.createdAll <$> Store.createAll os
    unfold Store.createAll
    rw [hinsert, List.length_map, List.isEmpty_map]
  | _ => rfl

/-- The operations without it leave the same store behind, and are answered the same. -/
theorem after_plain (s : Store) (ops : List Operation) :
    after s (ops.map Operation.plain) = after s ops ∧
      answers s (ops.map Operation.plain) = answers s ops := by
  induction ops generalizing s with
  | nil => exact ⟨rfl, rfl⟩
  | cons op ops ih =>
    have hanswer : op.plain.answer s = op.answer s := by
      rw [Operation.answer, op.query_plain]
      rfl
    have hresult : op.plain.result s = op.result s := by
      rw [Operation.result, op.query_plain]
      rfl
    obtain ⟨hafter, hanswers⟩ := ih (op.result s)
    rw [List.map_cons, after, answers, hanswer, hresult, hafter, hanswers]
    exact ⟨rfl, rfl⟩

end OfferService.Storage
