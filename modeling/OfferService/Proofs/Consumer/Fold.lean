import OfferService.Consumer.Basic
import OfferService.Proofs.Storage.Order

/-
  OfferService.Proofs.Consumer.Fold

  A run of the consumer as a fold over what it took. A command asks one operation of storage, and what
  is said about it does not change the store; so a message that holds a command leaves the store that
  the operation leaves, and one that holds none leaves it as it was. Storage undoes an operation that
  it refuses, so a message that is passed over leaves nothing behind, however far its command got.

  A run takes the messages before it is told to stop, in their order, or all up to the first failure
  of its source: what it has done is that fold, whichever of the two has ended it.
-/
namespace OfferService.Consumer

open Storage

variable {s : Store} {e : Envelope} {es : List Envelope} {ds : List Delivery}
  {quit : Option Nat} {t : State}

/-! ## One message -/

/-- The command that a message holds, if it holds one. -/
def command? (e : Envelope) : Option Command :=
  (Command.ofText (Text.Utf8.encode e.payload)).toOption

/-- What a command asks of storage. -/
def operation : Command → Operation
  | .create o => .create o
  | .multiCreate os => .createAll os
  | .update o => .update o
  | .delete id => .remove id

/-- What is logged about a command that was carried out, by the answer to its operation. -/
def said : Command → Answer → List Log.Entry
  | .create o, .created id =>
    Store.createdLog o id ++ [remark ("Consumed create, offer " ++ toString id.toNat ++ " stored")]
  | .multiCreate _, .createdAll count =>
    Store.batchLog count ++
      [remark ("Consumed multi_create, " ++ toString count ++ " offers stored")]
  | _, _ => []

/-- A command is carried out by its operation, and then it is logged. -/
theorem execute_eq (c : Command) : execute c = said c <$> (operation c).query := by
  cases c <;>
    simp only [execute, operation, Operation.query, map_eq_pure_bind, bind_assoc, pure_bind, said]

/-- What becomes of a message: it is passed over if it holds no command or storage refuses the
    operation of its command, and is applied otherwise. -/
inductive Fate (e : Envelope) (s : Store) : Applied → Prop
  | unread {fault} (none : command? e = none) :
      Fate e s { result := .error (.decode fault), store := s }
  | refused {c cause} (holds : command? e = some c) (error : (operation c).answer s = .error cause) :
      Fate e s { result := .error (.storage cause), store := s }
  | applied {c a} (holds : command? e = some c) (ok : (operation c).answer s = .ok a) :
      Fate e s { result := .ok c, store := (operation c).result s, log := said c a }

theorem apply_fate (e : Envelope) (s : Store) : Fate e s (apply e s) := by
  unfold apply
  cases hread : Command.ofText (Text.Utf8.encode e.payload) with
  | error fault => exact .unread (by rw [command?, hread]; rfl)
  | ok c =>
    have holds : command? e = some c := by
      rw [command?, hread]
      rfl
    have hanswer := Query.map_answer (operation c).query (said c) s
    have hresult := Query.map_result (operation c).query (said c) s
    rw [← execute_eq] at hanswer hresult
    dsimp only
    generalize (execute c).on s = p at hanswer hresult
    obtain ⟨log, u⟩ := p
    -- What is said does not decide whether the command is carried out, only storage does.
    cases hasked : (operation c).answer s with
    | ok a =>
      obtain rfl : log = .ok (said c a) := hanswer.trans (congrArg (Except.map (said c)) hasked)
      obtain rfl : u = (operation c).result s := hresult
      exact .applied holds hasked
    | error cause =>
      obtain rfl : log = .error cause := hanswer.trans (congrArg (Except.map (said c)) hasked)
      obtain rfl : s = u := (hresult.trans (Operation.result_of_error hasked)).symm
      exact .refused holds hasked

/-- A message that is not applied leaves the store as it was. -/
theorem store_of_error {cause : Error} (error : (apply e s).result = .error cause) :
    (apply e s).store = s := by
  have hfate := apply_fate e s
  generalize apply e s = a at hfate error
  cases hfate with
  | unread => rfl
  | refused => rfl
  | applied => cases error

/-! ## Messages in a row -/

/-- The store after a message: that after the operation of its command, if it holds one. -/
def effect (s : Store) (e : Envelope) : Store :=
  match command? e with
  | some c => (operation c).result s
  | none => s

theorem store_apply (e : Envelope) (s : Store) : (apply e s).store = effect s e := by
  have hfate := apply_fate e s
  generalize apply e s = a at hfate
  unfold effect
  cases hfate with
  | unread none => rw [none]
  | refused holds error =>
    rw [holds]
    exact (Operation.result_of_error error).symm
  | applied holds => rw [holds]

/-- What becomes of messages that are applied in turn. -/
def results (s : Store) : List Envelope → List (Except Error Command)
  | [] => []
  | e :: es => (apply e s).result :: results (apply e s).store es

/-- Those of the messages' commands that were applied. -/
def accepted (s : Store) (es : List Envelope) : List Command :=
  (results s es).filterMap Except.toOption

/-- The operations that messages ask of storage. -/
def asked (es : List Envelope) : List Operation := (es.filterMap command?).map operation

theorem foldl_effect (s : Store) (es : List Envelope) : es.foldl effect s = after s (asked es) := by
  induction es generalizing s with
  | nil => rfl
  | cons e es ih =>
    rw [List.foldl_cons, ih, effect, asked, asked, List.filterMap_cons]
    cases command? e with
    | none => rfl
    | some c => rfl

/-- The commands that were applied are those whose operations succeeded. -/
theorem map_operation_accepted (s : Store) (es : List Envelope) :
    (accepted s es).map operation = successes s (asked es) := by
  induction es generalizing s with
  | nil => rfl
  | cons e es ih =>
    have hrest := ih (apply e s).store
    have hfate := apply_fate e s
    unfold accepted results
    rw [List.filterMap_cons]
    rw [accepted] at hrest
    generalize apply e s = a at hfate hrest
    unfold asked
    rw [List.filterMap_cons]
    cases hfate with
    | unread none => rw [none]; exact hrest
    | refused holds error =>
      rw [holds, List.map_cons, successes, error, Operation.result_of_error error]
      exact hrest
    | applied holds ok =>
      rw [holds, List.map_cons, successes, ok]
      exact congrArg (_ :: ·) hrest

/-! ## Runs -/

/-- The messages that a source gives before it fails. -/
def messages : List Delivery → List Envelope
  | [] => []
  | .failure _ :: _ => []
  | .message e :: rest => e :: messages rest

/-- The first failure of a source. -/
def fault? : List Delivery → Option String
  | [] => none
  | .failure reason :: _ => some reason
  | .message _ :: rest => fault? rest

/-- The messages that are taken by a run that is told to stop after so many, if at all. -/
def taken : (quit : Option Nat) → List Envelope → List Envelope
  | none, es => es
  | some n, es => es.take n

/-- A run has the store that its messages leave, and has counted what became of each. -/
theorem foldl_take (t : State) (es : List Envelope) :
    (es.foldl State.take t).store = es.foldl effect t.store ∧
      (es.foldl State.take t).report = (results t.store es).foldl Report.add t.report := by
  induction es generalizing t with
  | nil => exact ⟨rfl, rfl⟩
  | cons e es ih =>
    obtain ⟨hstore, hreport⟩ := ih (t.take e)
    have hnext : (t.take e).store = effect t.store e := store_apply e t.store
    refine ⟨?_, hreport⟩
    rw [List.foldl_cons, List.foldl_cons, ← hnext]
    exact hstore

/-- Commands that were applied are counted, and so is everything else. -/
theorem foldl_add (r : Report) (xs : List (Except Error Command)) :
    (xs.foldl Report.add r).applied = r.applied + (xs.filterMap Except.toOption).length ∧
      (xs.foldl Report.add r).applied + (xs.foldl Report.add r).failed =
        r.applied + r.failed + xs.length := by
  induction xs generalizing r with
  | nil => exact ⟨rfl, rfl⟩
  | cons x xs ih =>
    obtain ⟨happlied, hboth⟩ := ih (r.add x)
    rw [List.foldl_cons, List.length_cons, hboth, happlied]
    cases x with
    | ok c =>
      simp only [Report.add, Except.toOption, List.filterMap_cons, List.length_cons]
      omega
    | error cause =>
      refine ⟨rfl, ?_⟩
      simp only [Report.add]
      omega

theorem length_results (s : Store) (es : List Envelope) : (results s es).length = es.length := by
  induction es generalizing s with
  | nil => rfl
  | cons e es ih => rw [results, List.length_cons, ih, List.length_cons]

/-- A run ends with the messages before it was told to stop, or with all of them. -/
theorem run_stop (h : fault? ds = none ∨ ∃ n, quit = some n ∧ n ≤ (messages ds).length) :
    run t quit ds = ((taken quit (messages ds)).foldl State.take t).stop := by
  induction ds generalizing quit t with
  | nil =>
    have hnone : taken quit [] = [] := by
      cases quit with
      | none => rfl
      | some n => exact List.take_nil
    rw [messages, hnone, List.foldl_nil]
    cases quit with
    | none => rfl
    | some n => cases n <;> rfl
  | cons d rest ih =>
    cases d with
    | failure reason =>
      -- The run stops before it sees the failure: being told to stop is looked at first.
      rcases h with h | ⟨n, rfl, hn⟩
      · cases h
      · obtain rfl : n = 0 := Nat.le_zero.mp hn
        rfl
    | message e =>
      match quit with
      | some 0 => rfl
      | none => exact ih (h.imp_right fun ⟨n, hn, _⟩ => nomatch hn)
      | some (n + 1) =>
        refine ih (h.imp_right fun ⟨m, hm, hle⟩ => ⟨n, rfl, ?_⟩)
        obtain rfl := Option.some.inj hm
        exact Nat.le_of_succ_le_succ hle

/-- A run that was not told to stop before its source fails has taken all messages up to there. -/
theorem run_fail {reason : String} (failed : fault? ds = some reason)
    (going : ∀ n, quit = some n → (messages ds).length < n) :
    run t quit ds = (.error (.read reason), (messages ds).foldl State.take t) := by
  induction ds generalizing quit t with
  | nil => cases failed
  | cons d rest ih =>
    cases d with
    | failure reason =>
      cases failed
      match quit with
      | some 0 => exact absurd (going 0 rfl) (Nat.not_lt_zero _)
      | none => rfl
      | some (n + 1) => rfl
    | message e =>
      match quit with
      | some 0 => exact absurd (going 0 rfl) (Nat.not_lt_zero _)
      | none => exact ih failed nofun
      | some (n + 1) =>
        refine ih failed fun m hm => ?_
        obtain rfl := Option.some.inj hm
        exact Nat.lt_of_succ_lt_succ (going (n + 1) rfl)

/-- A run that is told to stop after its last message takes them all. -/
theorem taken_of_going (going : ∀ n, quit = some n → es.length < n) : taken quit es = es := by
  cases quit with
  | none => rfl
  | some n => exact List.take_of_length_le (Nat.le_of_lt (going n rfl))

/-- However a run ends, it has done what the messages it has taken come to. -/
theorem run_state (t : State) (quit : Option Nat) (ds : List Delivery) :
    (run t quit ds).2.store = ((taken quit (messages ds)).foldl State.take t).store ∧
      (run t quit ds).2.report = ((taken quit (messages ds)).foldl State.take t).report := by
  by_cases h : fault? ds = none ∨ ∃ n, quit = some n ∧ n ≤ (messages ds).length
  · rw [run_stop h]
    exact ⟨rfl, rfl⟩
  · obtain ⟨hfault, hquit⟩ := not_or.mp h
    obtain ⟨reason, failed⟩ := Option.ne_none_iff_exists'.mp hfault
    have going (n : Nat) (hn : quit = some n) : (messages ds).length < n :=
      Nat.lt_of_not_le fun hle => hquit ⟨n, hn, hle⟩
    rw [run_fail failed going, taken_of_going going]
    exact ⟨rfl, rfl⟩

/-- Whatever a source gives to a run on whatever store, and whenever the run is told to stop, if it is:
    the run has taken the messages before it was told to stop, or all that there were before the
    source failed. The store is the fold of their operations in that order; those that were applied
    are each applied once, and leave the same store without the others. A message that was not applied
    has left the store as it was. The report counts those that were applied, and with those that were
    not it counts all. The run fails just if its source does, with the reason that the source gives,
    and then it has taken all messages up to there. -/
theorem run_is_fold (s : Store) (quit : Option Nat) (ds : List Delivery) :
    let es := taken quit (messages ds)
    let t := run { store := s } quit ds
    t.2.store = es.foldl effect s ∧
    t.2.store = after s ((accepted s es).map operation) ∧
    (accepted s es).map operation = successes s (asked es) ∧
    (∀ before e later cause, es = before ++ e :: later →
      (apply e (before.foldl effect s)).result = .error cause →
      (before ++ [e]).foldl effect s = before.foldl effect s) ∧
    t.2.report.applied = (accepted s es).length ∧
    t.2.report.applied + t.2.report.failed = es.length ∧
    ((fault? ds = none ∨ ∃ n, quit = some n ∧ n ≤ (messages ds).length) →
      t.1 = .ok t.2.report) ∧
    ∀ reason, fault? ds = some reason → (∀ n, quit = some n → (messages ds).length < n) →
      t.1 = .error (.read reason) ∧ es = messages ds := by
  intro es t
  obtain ⟨hstore, hreport⟩ := run_state { store := s } quit ds
  obtain ⟨hfold, hcounts⟩ := foldl_take { store := s } es
  obtain ⟨happlied, hall⟩ := foldl_add {} (results s es)
  have hstore : t.2.store = es.foldl effect s := hstore.trans hfold
  have hreport : t.2.report = (results s es).foldl Report.add {} := hreport.trans hcounts
  have haccepted := map_operation_accepted s es
  refine ⟨hstore, ?_, haccepted, fun before e later cause _ error => ?_, ?_, ?_, fun h => ?_,
    fun reason failed going => ⟨?_, taken_of_going going⟩⟩
  · rw [haccepted, after_successes, hstore, foldl_effect]
  · rw [List.foldl_append, List.foldl_cons, List.foldl_nil, ← store_apply, store_of_error error]
  · rw [hreport, happlied, Nat.zero_add]
    rfl
  · rw [hreport, hall, length_results, Nat.zero_add, Nat.zero_add]
  · have ht : t = _ := run_stop h
    rw [ht]
    rfl
  · have ht : t = _ := run_fail failed going
    rw [ht]

/-- Of four messages before the source fails, one is no command, one creates an offer too large after
    another, and one removes an offer that is not there: nothing is left of them. -/
theorem run_is_fold_last_of_four :
    let message (text : String) : Delivery := .message { topic := "t", key := "t", payload := text }
    let small : Command := .create (.fresh 7 3 5)
    let middle : Command := .multiCreate [.fresh 7 3 5, .fresh 7 3 9223372036854775808]
    let ds := [message "?", message middle.toJson.render,
      message (Command.delete 4).toJson.render, message small.toJson.render, .failure "gone"]
    let t := run { store := {} } none ds
    t.1 = .error (.read "gone") ∧ t.2.store = after {} [.create (.fresh 7 3 5)] ∧
      t.2.report = { applied := 1, failed := 3 } := by
  intro message small middle ds t
  have haccepted : accepted {} (taken none (messages ds)) = [small] := by
    decide +kernel
  obtain ⟨-, hstore, -, -, happlied, hall, -, hfailed⟩ := run_is_fold {} none ds
  obtain ⟨herror, -⟩ := hfailed "gone" rfl nofun
  rw [haccepted] at hstore happlied
  refine ⟨herror, hstore, ?_⟩
  have hfour : t.2.report.applied + t.2.report.failed = 4 := hall
  have hone : t.2.report.applied = 1 := happlied
  have hthree : t.2.report.failed = 3 := by omega
  calc t.2.report = ⟨t.2.report.applied, t.2.report.failed⟩ := rfl
    _ = ⟨1, 3⟩ := by rw [hone, hthree]

end OfferService.Consumer
