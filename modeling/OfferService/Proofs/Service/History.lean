import OfferService.Proofs.Service.Bulk
import OfferService.Proofs.Storage.Order

/-
  OfferService.Proofs.Service.History

  A run of a service as a history of storage. Handlers ask storage for one operation at a time, and
  the saver for one batch at a time; what storage fails for a reason of its own is not asked for at
  all. Nothing else touches the stored offers, so whatever is known of histories of operations
  is known of services, whoever moves when.
-/
namespace OfferService.Service

open OfferService.Storage (Operation Query)

variable {s t : State} {a : Action} {m : Moved} {as : List Action} {es : List Event}
  {fault : Option Storage.Error}

/-! ## One action -/

/-- What is asked of storage, unless storage fails it. -/
def unfailed : Option Storage.Error → List Operation → List Operation
  | some _, _ => []
  | none, ops => ops

/-- What a job asks of storage before anything else is done for it. -/
def asked : Api.Job → List Operation
  | .create o _ => [.create o]
  | .createAll os _ => [.createAll os]
  | .describe id _ => [.describe id]
  | .list w _ => [.list w]
  | .update o _ => [.update o]
  | .remove id _ => [.remove id]
  | _ => []

/-- What an action asks of storage. -/
def calls (s : State) : Action → List Operation
  | .handle c fault => unfailed fault (((s.handling? c).map fun h => asked h.job).getD [])
  | .storeBatch fault =>
    match s.saver.loop with
    | .flushing _ f _ => unfailed fault [.createAll f.current]
    | _ => []
  | _ => []

theorem mem_of_mem_unfailed {op : Operation} {ops : List Operation}
    (hop : op ∈ unfailed fault ops) : op ∈ ops := by
  cases fault with
  | some e => cases hop
  | none => exact hop

/-- A query that storage fails leaves the store as it was. -/
theorem withFault_result {α : Type} {q : Query α} {ops : List Operation} {store : Storage.Store}
    (result : (q.on store).2 = Storage.after store ops) (fault : Option Storage.Error) :
    ((withFault fault q).on store).2 = Storage.after store (unfailed fault ops) := by
  cases fault with
  | some e => rfl
  | none => exact result

/-- The query of a handler leaves the store that its operation leaves. -/
theorem Asks.result {job : Api.Job} {α : Type} {q : Query α} {log : α → List Log.Entry}
    {next : Except Storage.Error α → Api.Job} (asks : Asks job q log next) (s : Storage.Store) :
    (q.on s).2 = Storage.after s (asked job) := by
  cases asks with
  | create => exact (Query.map_result _ _ s).symm
  | createAll => exact (Query.map_result _ _ s).symm
  | describe => exact (Query.map_result _ _ s).symm
  | list => exact (Query.map_result _ _ s).symm
  | update => exact (Query.map_result _ _ s).symm
  | remove => exact (Query.map_result _ _ s).symm

theorem store_handle (s : State) (c : Caller) (h : Handling) (fault : Option Storage.Error) :
    (handle s c h fault).1.store = Storage.after s.store (unfailed fault (asked h.job)) := by
  have hquery {α : Type} {q : Query α} {log : α → List Log.Entry}
      {next : Except Storage.Error α → Api.Job} {x : Except Storage.Error α} {u : Storage.Store}
      (asks : Asks h.job q log next) (result : (withFault fault q).on s.store = (x, u)) :
      u = Storage.after s.store (unfailed fault (asked h.job)) := by
    rw [← withFault_result (asks.result s.store), result]
  have hidle (none : asked h.job = []) :
      s.store = Storage.after s.store (unfailed fault (asked h.job)) := by
    rw [none]
    cases fault <;> rfl
  -- Whether storage has answered with success or not, its store is that after the operation.
  generalize hm : handle s c h fault = m
  cases handle_cases hm with
  | answer job => exact hidle (by rw [job]; rfl)
  | stored asks result => exact hquery asks result
  | failed asks result => exact hquery asks result
  | save job =>
    rw [afterSaver_store]
    exact hidle (by rw [job]; rfl)
  | publish job =>
    rw [afterPublisher_store]
    exact hidle (by rw [job]; rfl)
  | count job => exact hidle (by rw [job]; rfl)
  | log job => exact hidle (by rw [job]; rfl)

/-- The store after an action is the store after what the action asks for. -/
theorem Move.store_eq (hmove : Move s a m) : m.1.store = Storage.after s.store (calls s a) := by
  have hbatch {why : Saver.Reason} {f : Batch.Flush Offer} {after : Station}
      {fault : Option Storage.Error} {x : Except Storage.Error Nat} {u : Storage.Store}
      (busy : s.saver.loop = .flushing why f after)
      (result : (withFault fault (Storage.Store.createAll f.current)).on s.store = (x, u)) :
      u = Storage.after s.store (calls s (.storeBatch fault)) := by
    have hcreate : ((Storage.Store.createAll f.current).on s.store).2 =
        Storage.after s.store [.createAll f.current] := (Query.map_result _ _ s.store).symm
    simp only [calls, busy]
    rw [← withFault_result hcreate, result]
  cases hmove with
  | receive => rfl
  | @handle c h fault found =>
    simp only [calls, found]
    exact store_handle s c h fault
  | saver => exact afterSaver_store s _
  | publisher => exact afterPublisher_store s _
  | store busy stored =>
    rw [afterSaver_store]
    exact hbatch busy stored
  | refuse busy refused =>
    rw [afterSaver_store]
    exact hbatch busy refused

/-! ## Whole runs -/

/-- What is asked of storage in the course of some actions. -/
def history (s : State) (as : List Action) : List Operation := gathered step calls s as

/-- In every run, the stored offers are those that the history leaves. -/
theorem store_of_path (h : Path step s as es t) :
    t.store = Storage.after s.store (history s as) := by
  induction h with
  | refl => rfl
  | tail hpath hstep ih =>
    rw [history, gathered_concat hpath hstep, Storage.after_append]
    rw [history] at ih
    rw [← ih]
    exact (move_cases hstep).store_eq

end OfferService.Service
