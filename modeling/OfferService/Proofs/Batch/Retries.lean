import Mathlib.Data.Finset.Card
import OfferService.Proofs.Batch.Length
import OfferService.Proofs.Batch.Transcript

/-
  OfferService.Proofs.Batch.Retries

  Flushes one after another, each of what the one before left behind. A flush leaves something
  behind only where a call failed, and it makes no call after that one; so each flush that leaves
  something has used up one failure, and no later flush meets that failure again. With finitely many
  failures to come, there is a flush that leaves nothing. The batches of a flush say nothing of those
  of the next, which cuts what is left anew; but stored batches and what is left make up the items,
  and that carries over from one flush to the next.
-/
namespace OfferService.Batch

variable {α : Type} {answers : Nat → Except Storage.Error Unit} {n total groups : Nat}
  {items : List α} {batches : List (List α)} {t : Transcript α} {failures : Finset Nat}

/-! ## The calls of one flush -/

/-- The calls of a flush that storage refused. -/
def Transcript.failed (t : Transcript α) : List (Call α) := t.calls.filter (!·.succeeded)

/-- Storage refuses none of the batches that it has a good answer to. -/
theorem filter_failed_callsOf (all : ∀ i < batches.length, answers (n + i) = .ok ()) :
    (callsOf answers n batches).filter (!·.succeeded) = [] := by
  refine List.filter_eq_nil_iff.mpr fun c hc => ?_
  rw [succeeded_of_mem_callsOf all hc]
  nofun

/-- Storage refuses a batch that it has an error for. -/
theorem filter_failed_refused {batch : List α} {e : Storage.Error} (error : answers n = .error e) :
    (callsOf answers n [batch]).filter (!·.succeeded) = [⟨n, batch, answers n⟩] := by
  rw [callsOf, callsOf, List.filter_cons_of_pos (by
    rw [Call.succeeded, error]
    rfl)]
  rfl

namespace Fares

/-- The calls of a flush are numbered one after another. -/
theorem numbers (h : Fares answers n total batches t) :
    t.calls.map Call.number = List.range' n t.calls.length := by
  cases h <;> rw [numbers_callsOf, length_callsOf]

/-- A flush makes no more calls than there are batches. -/
theorem length_calls_le (h : Fares answers n total batches t) :
    t.calls.length ≤ batches.length := by
  cases h with
  | stored => rw [length_callsOf]
  | @refused before b later e cut =>
    rw [length_callsOf, cut, List.length_append, List.length_append, List.length_cons]
    exact Nat.add_le_add_left (Nat.succ_le_succ (Nat.zero_le _)) _

/-- A flush leaves nothing, or the last of its calls failed and no other. -/
theorem remaining_cases (h : Fares answers n total batches t) :
    (t.outcome.remaining = [] ∧ t.failed = []) ∨ ∃ c, t.failed = [c] ∧ n ≤ c.number ∧
      c.number + 1 = n + t.calls.length ∧ ∃ e, answers c.number = .error e := by
  cases h with
  | stored all => exact Or.inl ⟨rfl, filter_failed_callsOf all⟩
  | @refused before b later e cut all error =>
    refine Or.inr ⟨⟨n + before.length, b, answers (n + before.length)⟩, ?_, Nat.le_add_right _ _,
      ?_, e, error⟩
    · rw [Transcript.failed, callsOf_append, List.filter_append, filter_failed_callsOf all,
        filter_failed_refused error, List.nil_append]
    · rw [length_callsOf, List.length_append, List.length_singleton, Nat.add_assoc]

end Fares

/-- A flush of nothing stores nothing and leaves nothing. -/
theorem flush_nil (hg : 0 < groups) :
    flush answers n ([] : List α) groups = ⟨[], ⟨0, [], none⟩⟩ := by
  unfold flush Flush.start split
  rw [if_neg (by omega), chunks]

/-! ## Failures to come -/

/-- The failures that calls from number `n` on still meet. -/
def toCome (failures : Finset Nat) (n : Nat) : Finset Nat := failures.filter (n ≤ ·)

/-- A failure that is met before later calls is not among those they meet. -/
theorem card_toCome_lt {i m : Nat} (hi : i ∈ failures) (hn : n ≤ i) (hm : i < m) :
    (toCome failures m).card < (toCome failures n).card := by
  refine Finset.card_lt_card ((Finset.ssubset_iff_of_subset fun j hj => ?_).mpr
    ⟨i, Finset.mem_filter.mpr ⟨hi, hn⟩, fun h => ?_⟩)
  · obtain ⟨hj, hle⟩ := Finset.mem_filter.mp hj
    exact Finset.mem_filter.mpr ⟨hj, by omega⟩
  · have hle : m ≤ i := (Finset.mem_filter.mp h).2
    omega

/-! ## Flush after flush -/

/-- The first so many flushes of items, each of what the one before left behind. -/
def retries (answers : Nat → Except Storage.Error Unit) (groups : Nat) :
    (times n : Nat) → List α → List (Transcript α)
  | 0, _, _ => []
  | times + 1, n, items =>
    let t := flush answers n items groups
    t :: retries answers groups times (n + t.calls.length) t.outcome.remaining

/-- What is left of items after these flushes. -/
def leftover : List α → List (Transcript α) → List α
  | items, [] => items
  | _, t :: ts => leftover t.outcome.remaining ts

/-- The calls of these flushes. -/
def allCalls (ts : List (Transcript α)) : List (Call α) := ts.flatMap Transcript.calls

/-- Flushes of nothing store nothing. -/
theorem retries_nil (hg : 0 < groups) (times n : Nat) :
    leftover [] (retries answers groups times n ([] : List α)) = [] ∧
      allCalls (retries answers groups times n ([] : List α)) = [] := by
  induction times with
  | zero => exact ⟨rfl, rfl⟩
  | succ times ih =>
    rw [retries, flush_nil hg]
    exact ih

/-- Nothing is lost over any number of flushes. -/
theorem stored_append_leftover (times n : Nat) (items : List α) :
    let ts := retries answers groups times n items
    (ts.flatMap Transcript.stored).flatten ++ leftover items ts = items := by
  induction times generalizing n items with
  | zero => rfl
  | succ times ih =>
    rw [retries]
    intro ts
    rw [List.flatMap_cons, List.flatten_append, leftover, List.append_assoc, ih]
    exact flush_stored_append_remaining answers n items groups

theorem numbers_allCalls (hg : 0 < groups) (times n : Nat) (items : List α) :
    let calls := allCalls (retries answers groups times n items)
    calls.map Call.number = List.range' n calls.length := by
  induction times generalizing n items with
  | zero => rfl
  | succ times ih =>
    obtain ⟨batches, -, hfares⟩ := fares_flush answers n items hg
    simp only [retries, allCalls, List.flatMap_cons, List.map_append, List.length_append] at ih ⊢
    rw [hfares.numbers, ih, ← List.range'_append_1]

/-- A flush leaves nothing, or fewer failures to come. -/
theorem remaining_or_card_lt (hg : 0 < groups)
    (failing : ∀ i e, n ≤ i → answers i = .error e → i ∈ failures) (items : List α) :
    let t := flush answers n items groups
    t.outcome.remaining = [] ∨
      (toCome failures (n + t.calls.length)).card < (toCome failures n).card := by
  obtain ⟨batches, -, hfares⟩ := fares_flush answers n items hg
  rcases hfares.remaining_cases with ⟨hnone, -⟩ | ⟨c, -, hn, hlast, e, error⟩
  · exact Or.inl hnone
  · exact Or.inr (card_toCome_lt (failing _ e hn error) hn (Nat.le_of_eq hlast))

/-- Each flush that leaves something uses up a failure, so there is one that leaves nothing before
    there are more flushes than failures. -/
theorem leftover_retries (hg : 0 < groups)
    (failing : ∀ i e, n ≤ i → answers i = .error e → i ∈ failures) {times : Nat}
    (ht : (toCome failures n).card < times) :
    leftover items (retries answers groups times n items) = [] := by
  induction times generalizing n items with
  | zero => cases ht
  | succ times ih =>
    rw [retries, leftover]
    rcases remaining_or_card_lt hg failing items with hnone | hless
    · rw [hnone]
      exact (retries_nil hg _ _).1
    · exact ih (fun i e hi => failing i e (by omega)) (by omega)

/-- The flushes that leave something and the one after them are all that make calls. -/
theorem length_allCalls_le (hg : 0 < groups)
    (failing : ∀ i e, n ≤ i → answers i = .error e → i ∈ failures) (times : Nat) :
    (allCalls (retries answers groups times n items)).length ≤
      ((toCome failures n).card + 1) * groups := by
  induction times generalizing n items with
  | zero => exact Nat.zero_le _
  | succ times ih =>
    obtain ⟨batches, hsplit, hfares⟩ := fares_flush answers n items hg
    have hcalls := hfares.length_calls_le.trans (length_split_le hsplit hg)
    rw [retries, allCalls, List.flatMap_cons, List.length_append, Nat.add_mul, Nat.one_mul,
      Nat.add_comm _ groups]
    -- The later flushes make no calls, or there is a failure less for them to meet.
    refine Nat.add_le_add hcalls ?_
    rcases remaining_or_card_lt hg failing items with hnone | hless
    · rw [hnone, ← allCalls, (retries_nil hg times _).2]
      exact Nat.zero_le _
    · exact (ih fun i e hi => failing i e (by omega)).trans (Nat.mul_le_mul_right _ hless)

/-- A flush among others that leaves something has met one failure. -/
theorem failed_of_mem_retries (hg : 0 < groups)
    (failing : ∀ i e, n ≤ i → answers i = .error e → i ∈ failures) {times : Nat}
    (ht : t ∈ retries answers groups times n items) :
    (t.outcome.remaining = [] ∧ t.failed = []) ∨
      ∃ c ∈ t.calls, t.failed = [c] ∧ c.number ∈ failures := by
  induction times generalizing n items with
  | zero => cases ht
  | succ times ih =>
    rw [retries] at ht
    rcases List.mem_cons.mp ht with rfl | ht
    · obtain ⟨batches, -, hfares⟩ := fares_flush answers n items hg
      rcases hfares.remaining_cases with hnone | ⟨c, hfailed, hn, -, e, error⟩
      · exact Or.inl hnone
      · have hmem : c ∈ (flush answers n items groups).failed := by
          rw [hfailed]
          exact List.mem_singleton_self c
        exact Or.inr ⟨c, (List.mem_filter.mp hmem).1, hfailed, failing _ e hn error⟩
    · exact ih (fun i e hi => failing i e (by omega)) ht

/-- Whatever calls storage refuses, if they are finitely many: flushes in at least one batch, each of
    what the one before left behind, leave nothing once there are more of them than refused calls,
    and the batches that they stored are then the items. They never make more calls than as many
    batches for each refused call and as many again. The calls are numbered one after another, so no
    two flushes share one, and each flush that leaves something has met exactly one refused call; one
    that leaves nothing has met none. Broken off at any point, the batches that were stored and what
    is left make up the items. -/
theorem retries_converge (hg : 0 < groups)
    (failing : ∀ i, i ∈ failures ↔ n ≤ i ∧ ∃ e, answers i = .error e) (items : List α)
    (times : Nat) : let ts := retries answers groups times n items
    (failures.card < times →
      leftover items ts = [] ∧ (ts.flatMap Transcript.stored).flatten = items) ∧
    (allCalls ts).length ≤ (failures.card + 1) * groups ∧
    (allCalls ts).map Call.number = List.range' n (allCalls ts).length ∧
    (∀ t ∈ ts, (t.outcome.remaining = [] ∧ t.failed = []) ∨
      ∃ c ∈ t.calls, t.failed = [c] ∧ c.number ∈ failures) ∧
    (ts.flatMap Transcript.stored).flatten ++ leftover items ts = items := by
  intro ts
  have hmet : ∀ i e, n ≤ i → answers i = .error e → i ∈ failures := fun i e hn error =>
    (failing i).mpr ⟨hn, e, error⟩
  have hall : toCome failures n = failures :=
    Finset.filter_true_of_mem fun i hi => ((failing i).mp hi).1
  have hwhole : (ts.flatMap Transcript.stored).flatten ++ leftover items ts = items :=
    stored_append_leftover times n items
  have hcalls : (allCalls ts).length ≤ ((toCome failures n).card + 1) * groups :=
    length_allCalls_le hg hmet times
  rw [hall] at hcalls
  refine ⟨fun ht => ?_, hcalls, numbers_allCalls hg times n items,
    fun t ht => failed_of_mem_retries hg hmet ht, hwhole⟩
  have hnothing : leftover items ts = [] := leftover_retries hg hmet (by rwa [hall])
  rw [hnothing, List.append_nil] at hwhole
  exact ⟨hnothing, hwhole⟩

/-- Five items in two groups, of which storage refuses the first call and the third: the third flush
    is the first that leaves nothing. -/
theorem retries_converge_two_refused :
    let ts := retries ({ failOn := [1, 3] } : Outage).storageAnswer 2 3 1 (List.range 5)
    ts.map (·.outcome.remaining) = [[0, 1, 2, 3, 4], [3, 4], []] ∧
      (ts.flatMap Transcript.stored).flatten = [0, 1, 2, 3, 4] ∧ (allCalls ts).length ≤ 6 := by
  have failing (i : Nat) : i ∈ ({1, 3} : Finset Nat) ↔
      1 ≤ i ∧ ∃ e, ({ failOn := [1, 3] } : Outage).storageAnswer i = .error e := by
    have hcontains : ([1, 3].contains i = true) ↔ i = 1 ∨ i = 3 := by simp
    rw [Outage.storageAnswer, Outage.fails, Bool.false_or, Finset.mem_insert, Finset.mem_singleton,
      ← hcontains]
    split
    · rename_i h
      have hone : 1 ≤ i := by
        rcases hcontains.mp h with rfl | rfl <;> decide
      exact ⟨fun _ => ⟨hone, _, rfl⟩, fun _ => h⟩
    · rename_i h
      exact ⟨fun h' => absurd h' h, fun ⟨_, _, error⟩ => nomatch error⟩
  obtain ⟨hnothing, hcalls, -⟩ := retries_converge Nat.two_pos failing (List.range 5) 3
  refine ⟨by cbv, (hnothing (by decide)).2, hcalls⟩

end OfferService.Batch
