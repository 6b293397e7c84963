import OfferService.Api.Router

/-
  OfferService.Proofs.Api.Debts

  What a job has done and not counted yet. Storage and counters do not change at the same time: an
  offer that was created is counted only after its event was sent, and a change is counted before
  it is answered. `Owes` says what is still to be counted while a job goes on, however storage, the
  saver and the publisher answer on the way; every job begins and ends with nothing owed.
-/
namespace OfferService.Api

open OfferService.Http (Request Response)

/-- What was done for a request and is still to be counted, or was counted and is still to be
    answered. -/
inductive Debt where
  | nothing
  /-- Offers were created and not counted. -/
  | created (count : Nat)
  /-- An offer was removed and not counted. -/
  | removed
  /-- A change was counted and not answered. -/
  | thanks

namespace Debt

/-- Rows that were inserted and not counted. -/
def rows : Debt → Nat
  | .created count => count
  | _ => 0

/-- Marks that were set and not counted. -/
def marks : Debt → Nat
  | .removed => 1
  | _ => 0

/-- Changes that were counted and not answered. -/
def changes : Debt → Nat
  | .thanks => 1
  | _ => 0

end Debt

/-- Does this answer thank for a change of an offer? -/
def thanks (r : Request) (a : Response) : Bool := r.method = .put && a.status = 204

/-- An answer is sent with the status that it has. -/
theorem status_sent (r : Request) (a : Response) : (sent r a).status = a.status := by
  unfold sent
  split <;> rfl

/-- What is sent thanks for a change if the answer does. -/
theorem thanks_sent (r : Request) (a : Response) : thanks r (sent r a) = thanks r a := by
  rw [thanks, thanks, status_sent]

/-- An error is not answered like a change. -/
theorem Error.status_ne (e : Error) : e.status ≠ 204 := by
  rcases e with reason | cause | cause
  · nofun
  · cases cause <;> nofun
  · cases cause <;> nofun

/-- A request that is in order goes on, and any other one is refused. -/
theorem Job.given_cases {α : Type} {P : Job → Prop} {input : Except Violation α} {next : α → Job}
    (accepted : ∀ a, input = .ok a → P (next a))
    (refused : ∀ reason, P (.refuse (.invalid reason))) : P (.given input next) := by
  unfold Job.given
  split
  · exact accepted _ rfl
  · exact refused _

/-- What a job for a request owes: whatever comes back on the way, it counts what was done, and
    what it counts as a change is answered so. -/
inductive Owes (r : Request) : Debt → Job → Prop
  | answer {a} (other : thanks r a = false) : Owes r .nothing (.answer a)
  | thank {a} (status : thanks r a = true) : Owes r .thanks (.answer a)
  | create {o next} (stored : ∀ id, Owes r (.created 1) (next (.ok id)))
      (failed : ∀ e, Owes r .nothing (next (.error e))) : Owes r .nothing (.create o next)
  | createAll {os next} (stored : ∀ n, Owes r (.created os.length) (next (.ok n)))
      (failed : ∀ e, Owes r .nothing (next (.error e))) : Owes r .nothing (.createAll os next)
  | describe {id next} (rest : ∀ x, Owes r .nothing (next x)) : Owes r .nothing (.describe id next)
  | list {w next} (rest : ∀ x, Owes r .nothing (next x)) : Owes r .nothing (.list w next)
  -- A change of an offer is no row and no mark, so it is owed only once it is counted.
  | update {o next} (rest : ∀ x, Owes r .nothing (next x)) : Owes r .nothing (.update o next)
  | remove {id next} (done : Owes r .removed (next (.ok ())))
      (failed : ∀ e, Owes r .nothing (next (.error e))) : Owes r .nothing (.remove id next)
  -- What the saver takes is counted when it is flushed, and not by the handler.
  | save {d o next} (rest : ∀ v, Owes r d (next v)) : Owes r d (.save o next)
  | publish {d kind id next} (rest : ∀ v, Owes r d (next v)) : Owes r d (.publish kind id next)
  | countCreated {count next} (rest : Owes r .nothing next) :
      Owes r (.created count) (.count (·.onCreated count) next)
  | countUpdated {next} (rest : Owes r .thanks next) : Owes r .nothing (.count (·.onUpdated) next)
  | countRemoved {next} (rest : Owes r .nothing next) : Owes r .removed (.count (·.onRemoved) next)
  | log {d es next} (rest : Owes r d next) : Owes r d (.log es next)

namespace Owes

variable {r : Request} {d : Debt}

/-- An answer with another status thanks for nothing. -/
theorem answer_of_status {a : Response} (h : a.status ≠ 204) : Owes r .nothing (.answer a) := by
  refine .answer ?_
  rw [thanks, decide_eq_false h, Bool.and_false]

/-- An answer to another method thanks for nothing. -/
theorem answer_of_method {a : Response} (h : r.method ≠ .put) : Owes r .nothing (.answer a) := by
  refine .answer ?_
  rw [thanks, decide_eq_false h, Bool.false_and]

/-- Whoever is refused owes nothing. -/
theorem refuse (e : Error) : Owes r .nothing (.refuse e) := .log (answer_of_status e.status_ne)

theorem given {α : Type} {input : Except Violation α} {next : α → Job}
    (h : ∀ a, input = .ok a → Owes r .nothing (next a)) : Owes r .nothing (.given input next) :=
  Job.given_cases h fun _ => .refuse _

theorem stored_error {α : Type} {next : α → Job} (e : Storage.Error) :
    Owes r .nothing (.stored next (.error e)) := .refuse _

/-- Whatever the publisher says, the job goes on. -/
theorem announce {kind : EventKind} {id : UInt64} {next : Job} (h : Owes r d next) :
    Owes r d (.announce kind id next) := by
  refine .publish fun v => ?_
  rcases v with e | ⟨⟩
  · exact .log h
  · exact h

end Owes

/-! ## Verdicts -/

/-- What is known of a job that waits for a verdict of the saver or the publisher is known of it
    when it goes on, whatever the verdict is. -/
structure Job.Heeds (Q : Job → Prop) : Prop where
  saved : ∀ {o next}, Q (.save o next) → ∀ v, Q (next v)
  sent : ∀ {kind id next}, Q (.publish kind id next) → ∀ v, Q (next v)

/-- A verdict changes nothing about what is owed. -/
theorem Owes.heeds (r : Request) (d : Debt) : Job.Heeds (Owes r d) := by
  refine ⟨?_, ?_⟩
  · intro o next howes v
    cases howes with
    | save rest => exact rest v
  · intro kind id next howes v
    cases howes with
    | publish rest => exact rest v

/-! ## Each handler -/

section

variable {r : Request}

theorem owes_create (method : r.method ≠ .put) : Owes r .nothing (create r) := by
  refine .given fun fields _ => .create (fun id => ?_) .stored_error
  exact .announce (.countCreated (.log (.answer_of_method method)))

theorem owes_createBatch (method : r.method ≠ .put) : Owes r .nothing (createBatch r) := by
  -- The handler counts the offers it was sent, whatever number storage gives back.
  refine .given fun fields _ => .createAll (fun n => ?_) .stored_error
  rw [List.length_map]
  exact .countCreated (.log (.answer_of_method method))

/-- What is handed to the saver is not for the handler to count. -/
theorem owes_saveEach (total accepted : Nat) (os : List Offer) :
    Owes r .nothing (saveEach total accepted os) := by
  induction os generalizing accepted with
  | nil => exact .answer_of_status nofun
  | cons o os ih =>
    refine .save fun v => ?_
    rcases v with e | ⟨⟩
    · exact .log (.refuse _)
    · exact ih (accepted + 1)

theorem owes_createBuffered : Owes r .nothing (createBuffered r) :=
  .given fun _ _ => owes_saveEach _ _ _

/-- A change is counted if storage has made it, and answered so. -/
theorem owes_change (method : r.method = .put) (segment : String) :
    Owes r .nothing (change segment r) := by
  refine .given fun o _ => .update fun x => ?_
  rcases x with e | ⟨⟩
  · exact .stored_error e
  · refine .announce (.countUpdated (.thank ?_))
    rw [thanks, method]
    rfl

theorem owes_remove (method : r.method ≠ .put) (segment : String) :
    Owes r .nothing (remove segment) := by
  refine .given fun id _ => .remove ?_ .stored_error
  exact .announce (.countRemoved (.answer_of_method method))

theorem owes_describe (segment : String) : Owes r .nothing (describe segment) := by
  refine .given fun id _ => .describe fun x => ?_
  rcases x with e | o
  · exact .stored_error e
  · exact .answer_of_status nofun

theorem owes_list : Owes r .nothing (list r) := by
  refine .given fun w _ => .list fun x => ?_
  rcases x with e | ⟨os, info⟩
  · exact .stored_error e
  · exact .answer_of_status nofun

end

/-- Every job begins with nothing owed. -/
theorem owes_jobOf (r : Request) : Owes r .nothing (jobOf r) := by
  unfold jobOf
  split
  · exact .answer_of_status nofun
  · rename_i route _
    have hnot : Owes r .nothing (.answer (.methodNotAllowed route.allow)) :=
      .answer_of_status nofun
    unfold Route.job
    cases route with
    | offers =>
      cases hm : r.method <;> first
        | exact hnot
        | exact owes_create (by rw [hm]; nofun)
        | exact owes_list
    | batch =>
      simp only []
      split
      · rename_i post
        exact owes_createBatch (by rw [post]; nofun)
      · exact hnot
    | buffered =>
      simp only []
      split
      · exact owes_createBuffered
      · exact hnot
    | offer segment =>
      cases hm : r.method <;> first
        | exact hnot
        | exact owes_describe segment
        | exact owes_change hm segment
        | exact owes_remove (by rw [hm]; nofun) segment

end OfferService.Api
