import OfferService.Proofs.Batch.Flush
import OfferService.Storage.Outage

/-
  OfferService.Proofs.Batch.Transcript

  What a whole flush does, call by call. Its batches are known before the first call: those of the
  split. It gives them to storage one after another, each once, up to the first that is refused, and
  what it leaves behind is that batch and all after it. `Fares` says so of the batches that are still
  to come, so it can be proved along the flush.

  The batches that were stored and what is left behind make up the items. So what is left behind is
  the items from a position on that is never past their end, and the numbers that are told of a flush
  are those of its batches.
-/
namespace OfferService.Batch

variable {α : Type} {answers : Nat → Except Storage.Error Unit} {n total groups : Nat}
  {items : List α} {batches : List (List α)} {t : Transcript α}

/-! ## Calls -/

/-- The calls that give these batches to storage one after another, the first with number `n`. -/
def callsOf (answers : Nat → Except Storage.Error Unit) : (n : Nat) → List (List α) → List (Call α)
  | _, [] => []
  | n, batch :: later => ⟨n, batch, answers n⟩ :: callsOf answers (n + 1) later

theorem callsOf_append (n : Nat) (before later : List (List α)) :
    callsOf answers n (before ++ later) =
      callsOf answers n before ++ callsOf answers (n + before.length) later := by
  induction before generalizing n with
  | nil => rfl
  | cons batch before ih =>
    rw [List.cons_append, callsOf, ih, callsOf, List.length_cons, Nat.add_comm before.length,
      ← Nat.add_assoc]
    rfl

@[simp] theorem length_callsOf (n : Nat) (batches : List (List α)) :
    (callsOf answers n batches).length = batches.length := by
  induction batches generalizing n with
  | nil => rfl
  | cons batch later ih => rw [callsOf, List.length_cons, List.length_cons, ih]

/-- Calls are numbered one after another. -/
theorem numbers_callsOf (n : Nat) (batches : List (List α)) :
    (callsOf answers n batches).map Call.number = List.range' n batches.length := by
  induction batches generalizing n with
  | nil => rfl
  | cons batch later ih =>
    rw [callsOf, List.map_cons, ih, List.length_cons, List.range'_succ]

theorem batches_callsOf (n : Nat) (batches : List (List α)) :
    (callsOf answers n batches).map Call.batch = batches := by
  induction batches generalizing n with
  | nil => rfl
  | cons batch later ih => rw [callsOf, List.map_cons, ih]

/-- Storage took the batch of the call. -/
def Call.succeeded (c : Call α) : Bool := c.answer.isOk

/-- The batches of these calls that were stored. -/
def storedOf (calls : List (Call α)) : List (List α) :=
  (calls.filter Call.succeeded).map Call.batch

/-- The batches that were stored in a flush. -/
def Transcript.stored (t : Transcript α) : List (List α) := storedOf t.calls

@[simp] theorem storedOf_append (calls later : List (Call α)) :
    storedOf (calls ++ later) = storedOf calls ++ storedOf later := by
  rw [storedOf, List.filter_append, List.map_append]
  rfl

/-- Storage takes each batch that it has a good answer to. -/
theorem succeeded_of_mem_callsOf {c : Call α} (all : ∀ i < batches.length, answers (n + i) = .ok ())
    (h : c ∈ callsOf answers n batches) : c.succeeded = true := by
  induction batches generalizing n with
  | nil => cases h
  | cons batch later ih =>
    rcases List.mem_cons.mp h with rfl | h
    · have hfirst : answers n = .ok () := all 0 (Nat.zero_lt_succ _)
      rw [Call.succeeded, hfirst]
      rfl
    · refine ih (fun i hi => ?_) h
      rw [Nat.add_assoc, Nat.add_comm 1]
      exact all (i + 1) (Nat.succ_lt_succ hi)

/-- If no call fails, all batches are stored. -/
theorem storedOf_callsOf (all : ∀ i < batches.length, answers (n + i) = .ok ()) :
    storedOf (callsOf answers n batches) = batches := by
  rw [storedOf, List.filter_eq_self.mpr fun c hc => succeeded_of_mem_callsOf all hc,
    batches_callsOf]

/-- A batch that is refused is not stored. -/
theorem storedOf_refused {batch : List α} {e : Storage.Error} (error : answers n = .error e) :
    storedOf (callsOf answers n [batch]) = [] := by
  rw [callsOf, callsOf, storedOf, List.filter_cons_of_neg (by
    rw [Call.succeeded, error]
    nofun)]
  rfl

/-! ## The batches of a flush -/

/-- How the batches of a flush fare, of which the first has the call number `n`: all are stored, or
    those up to the first that is refused; then that one and all later ones remain. -/
inductive Fares (answers : Nat → Except Storage.Error Unit) (n total : Nat)
    (batches : List (List α)) : Transcript α → Prop
  | stored (all : ∀ i < batches.length, answers (n + i) = .ok ()) :
      Fares answers n total batches ⟨callsOf answers n batches, ⟨total, [], none⟩⟩
  | refused {before b later e} (cut : batches = before ++ b :: later)
      (all : ∀ i < before.length, answers (n + i) = .ok ())
      (error : answers (n + before.length) = .error e) :
      Fares answers n total batches ⟨callsOf answers n (before ++ [b]),
        ⟨total, (b :: later).flatten, some (.persist b.length e)⟩⟩

/-- A batch that is stored comes before all others. -/
theorem Fares.cons {batch : List α} (h : Fares answers (n + 1) total batches t)
    (ok : answers n = .ok ()) : Fares answers n total (batch :: batches)
      { t with calls := ⟨n, batch, answers n⟩ :: t.calls } := by
  have hall {k : Nat} (later : ∀ i < k, answers (n + 1 + i) = .ok ()) :
      ∀ i < k + 1, answers (n + i) = .ok () := by
    intro i hi
    cases i with
    | zero => exact ok
    | succ i =>
      rw [Nat.add_comm i, ← Nat.add_assoc]
      exact later i (by omega)
  cases h with
  | stored all => exact .stored (hall all)
  | @refused before b later e cut all error =>
    rw [Nat.add_assoc, Nat.add_comm 1] at error
    rw [cut]
    exact .refused List.cons_append.symm (hall all) error

/-- A flush under way has the batch that storage was given and those after it to go. -/
theorem fares_finish (f : Flush α) (n : Nat) :
    Fares answers n f.total (f.current :: f.later) (f.finish answers n) := by
  fun_induction Flush.finish answers n f with
  | case1 n f call o ended =>
    -- Either this was the last batch, or it is the first that is refused.
    rcases Flush.answer_ended ended with ⟨ok, -, rfl⟩ | ⟨e, error, rfl⟩
    · rw [ok] at ended
      rw [Flush.later_of_ended ended]
      refine .stored fun i hi => ?_
      obtain rfl : i = 0 := by simpa using hi
      exact ok
    · exact .refused (List.nil_append _).symm nofun error
  | case2 n f call g waiting rest ih =>
    -- The flush goes on with the batches after this one, which was stored.
    obtain ⟨ok, -⟩ := Flush.answer_waiting waiting
    obtain ⟨hlater, htotal⟩ := Flush.later_of_waiting waiting
    rw [hlater, ← htotal]
    exact ih.cons ok

/-! ## Whole flushes -/

/-- A flush in at least one batch gives storage the batches of the split. -/
theorem fares_flush (answers : Nat → Except Storage.Error Unit) (n : Nat) (items : List α)
    (hg : 0 < groups) : ∃ batches, split items groups = .ok batches ∧
      Fares answers n items.length batches (flush answers n items groups) := by
  have hs : split items groups = .ok (chunks (step items.length groups) items) := by
    unfold split
    rw [if_neg (by omega)]
  refine ⟨_, hs, ?_⟩
  have hflatten := split_flatten hs
  unfold flush Flush.start
  rw [hs]
  generalize chunks (step items.length groups) items = batches at hflatten
  cases batches with
  | nil =>
    rw [← hflatten]
    exact .stored nofun
  | cons first later =>
    exact fares_finish { total := items.length, current := first, later } n

namespace Fares

theorem total_eq (h : Fares answers n total batches t) : t.outcome.total = total := by
  cases h <;> rfl

/-- Batches of which all are stored are stored in as many calls. -/
theorem eq_of_all (h : Fares answers n total batches t)
    (all : ∀ i < batches.length, answers (n + i) = .ok ()) :
    t = ⟨callsOf answers n batches, ⟨total, [], none⟩⟩ := by
  cases h with
  | stored => rfl
  | @refused before b later e cut _ error =>
    rw [all before.length (by simp [cut])] at error
    cases error

/-- The first batch that is refused ends the flush. -/
theorem eq_of_first {before later : List (List α)} {b : List α} {e : Storage.Error}
    (h : Fares answers n total batches t) (cut : batches = before ++ b :: later)
    (all : ∀ i < before.length, answers (n + i) = .ok ())
    (error : answers (n + before.length) = .error e) :
    t = ⟨callsOf answers n (before ++ [b]),
      ⟨total, (b :: later).flatten, some (.persist b.length e)⟩⟩ := by
  cases h with
  | stored all' =>
    rw [all' before.length (by simp [cut])] at error
    cases error
  | @refused before' b' later' e' cut' all' error' =>
    -- Both cuts are at the first call that fails.
    have hlength : before.length = before'.length := by
      rcases Nat.lt_trichotomy before.length before'.length with lt | same | gt
      · rw [all' _ lt] at error
        cases error
      · exact same
      · rw [all _ gt] at error'
        cases error'
    obtain ⟨rfl, hrest⟩ := List.append_inj (cut.symm.trans cut') hlength
    obtain ⟨rfl, rfl⟩ := List.cons.inj hrest
    rw [error] at error'
    cases error'
    rfl

/-- The batches that were stored and what remains are all the batches. -/
theorem stored_append_remaining (h : Fares answers n total batches t) :
    t.stored.flatten ++ t.outcome.remaining = batches.flatten := by
  cases h with
  | stored all =>
    rw [Transcript.stored, storedOf_callsOf all, List.append_nil]
  | @refused before b later e cut all error =>
    rw [Transcript.stored, callsOf_append, storedOf_append, storedOf_callsOf all,
      storedOf_refused error, List.append_nil, cut, List.flatten_append]

end Fares

/-- A flush in no batches gives storage nothing, and leaves everything behind. -/
theorem flush_zero (answers : Nat → Except Storage.Error Unit) (n : Nat) (items : List α) :
    flush answers n items 0 = ⟨[], ⟨items.length, items, some (.split .zeroGroupCount)⟩⟩ := rfl

/-- Nothing is lost in a flush: the batches that were stored, and then what is left behind. -/
theorem flush_stored_append_remaining (answers : Nat → Except Storage.Error Unit) (n : Nat)
    (items : List α) (groups : Nat) :
    (flush answers n items groups).stored.flatten ++
      (flush answers n items groups).outcome.remaining = items := by
  rcases Nat.eq_zero_or_pos groups with rfl | hg
  · rw [flush_zero]
    rfl
  · obtain ⟨batches, hsplit, hfares⟩ := fares_flush answers n items hg
    rw [hfares.stored_append_remaining, split_flatten hsplit]

theorem flush_total (answers : Nat → Except Storage.Error Unit) (n : Nat) (items : List α)
    (groups : Nat) : (flush answers n items groups).outcome.total = items.length := by
  rcases Nat.eq_zero_or_pos groups with rfl | hg
  · rw [flush_zero]
  · obtain ⟨batches, -, hfares⟩ := fares_flush answers n items hg
    exact hfares.total_eq

/-- A flush that was broken off is told of: what remains is what was not stored. -/
theorem report_of_error {remaining : List α} {cause : FlushError} :
    (Outcome.mk total remaining (some cause)).report =
      some (total - remaining.length, remaining.length) := by
  rw [Outcome.report, if_neg (by simp)]
  rfl

/-- A flush that has stored everything is told of, unless that was nothing. -/
theorem report_of_none :
    (Outcome.mk items.length ([] : List α) none).report =
      if items.isEmpty then none else some (items.length, 0) := by
  cases items with
  | nil => rfl
  | cons first rest =>
    rw [Outcome.report, if_neg (by simp)]
    rfl

/-- Whatever storage answers to which calls: a flush of items in at least one batch gives storage the
    batches of the split, one after another and each once, up to the first that is refused. If none
    is, nothing is left behind, and the flush is told of unless there was nothing to flush. If one is,
    that one and all after it are left behind, the error says how long it is, and how many items were
    stored and left behind is told once. A flush in no batches leaves everything to the error of the
    split. Always the batches that were stored and what is left behind make up the items: what is left
    behind begins in the items where the batches that were stored end. -/
theorem flush_is_exact (answers : Nat → Except Storage.Error Unit) (n : Nat) (items : List α)
    (groups : Nat) : let t := flush answers n items groups
    (groups = 0 → t.calls = [] ∧ t.outcome.remaining = items ∧
      t.outcome.error = some (.split .zeroGroupCount) ∧
      t.outcome.report = some (0, items.length)) ∧
    (0 < groups → ∃ batches, split items groups = .ok batches ∧
      ((∀ i < batches.length, answers (n + i) = .ok ()) →
        t.calls = callsOf answers n batches ∧ t.outcome.remaining = [] ∧ t.outcome.error = none ∧
        t.outcome.report = if items.isEmpty then none else some (items.length, 0)) ∧
      ∀ before b later e, batches = before ++ b :: later →
        (∀ i < before.length, answers (n + i) = .ok ()) →
        answers (n + before.length) = .error e →
        t.calls = callsOf answers n (before ++ [b]) ∧
        t.outcome.remaining = (b :: later).flatten ∧
        t.outcome.error = some (.persist b.length e) ∧
        t.outcome.report = some (before.flatten.length, (b :: later).flatten.length)) ∧
    t.stored.flatten ++ t.outcome.remaining = items ∧
    t.outcome.remaining = items.drop t.stored.flatten.length ∧
    t.stored.flatten.length ≤ items.length ∧
    t.outcome.total = items.length ∧ t.outcome.remaining.length ≤ t.outcome.total := by
  intro t
  have hwhole : t.stored.flatten ++ t.outcome.remaining = items :=
    flush_stored_append_remaining answers n items groups
  have htotal : t.outcome.total = items.length := flush_total answers n items groups
  have hlength := congrArg List.length hwhole
  rw [List.length_append] at hlength
  refine ⟨?_, ?_, hwhole, ?_, by omega, htotal, by omega⟩
  · rintro rfl
    have ht : t = _ := flush_zero answers n items
    rw [ht, report_of_error, Nat.sub_self]
    exact ⟨rfl, rfl, rfl, rfl⟩
  · intro hg
    obtain ⟨batches, hsplit, hfares⟩ := fares_flush answers n items hg
    refine ⟨batches, hsplit, fun all => ?_, fun before b later e cut all error => ?_⟩
    · have ht : t = _ := hfares.eq_of_all all
      rw [ht, report_of_none]
      exact ⟨rfl, rfl, rfl, rfl⟩
    · have ht : t = _ := hfares.eq_of_first cut all error
      have hparts : items.length = before.flatten.length + (b :: later).flatten.length := by
        rw [← split_flatten hsplit, cut, List.flatten_append, List.length_append]
      rw [ht, report_of_error, hparts, Nat.add_sub_cancel]
      exact ⟨rfl, rfl, rfl, rfl⟩
  · calc t.outcome.remaining
        = (t.stored.flatten ++ t.outcome.remaining).drop t.stored.flatten.length :=
          List.drop_left.symm
      _ = items.drop t.stored.flatten.length := by rw [hwhole]

/-- Ten items in three groups, of which storage refuses the second. -/
theorem flush_is_exact_second_of_three :
    let answers : Nat → Except Storage.Error Unit := ({ failOn := [2] } : Outage).storageAnswer
    let t := flush answers 1 (List.range 10) 3
    split (List.range 10) 3 = .ok [[0, 1, 2, 3], [4, 5, 6, 7], [8, 9]] ∧
      t.calls = callsOf answers 1 [[0, 1, 2, 3], [4, 5, 6, 7]] ∧
      t.outcome.remaining = [4, 5, 6, 7, 8, 9] ∧
      t.outcome.error = some (.persist 4 (.fileCreation "injected failure 2")) ∧
      t.outcome.report = some (4, 6) := by
  intro answers t
  have hsplit : split (List.range 10) 3 = .ok [[0, 1, 2, 3], [4, 5, 6, 7], [8, 9]] := by
    cbv
  obtain ⟨-, hsome, -⟩ := flush_is_exact answers 1 (List.range 10) 3
  obtain ⟨batches, hbatches, -, hfirst⟩ := hsome (by decide)
  rw [hsplit] at hbatches
  obtain ⟨rfl⟩ := hbatches
  refine ⟨hsplit, hfirst [[0, 1, 2, 3]] [4, 5, 6, 7] [[8, 9]] _ rfl ?_ ?_⟩
  · intro i hi
    obtain rfl : i = 0 := by simpa using hi
    rfl
  · rfl

end OfferService.Batch
