import OfferService.Proofs.Api.Bulk

/-
  OfferService.Proofs.Api.Requests

  What can be asked of the offer interface, and that nothing else is done: every request comes to
  one of the jobs that `Asks` lists, by its method and by what its path names. Whatever holds of all
  jobs is proved by cases on it, and the router is not opened again.
-/
namespace OfferService.Api

open OfferService.Http (Request Response)

/-- What is done for a request, by what it asks for. -/
inductive Asks (r : Request) : Job → Prop
  | unknown : Asks r (.answer .notFound)
  /-- What the path names is not asked for in this way. -/
  | unfit {allow} : Asks r (.answer (.methodNotAllowed allow))
  | create (post : Posts .offers r) : Asks r (create r)
  | list (read : r.method ≠ .post ∧ r.method ≠ .put ∧ r.method ≠ .delete) : Asks r (list r)
  | batch (post : Posts .batch r) : Asks r (createBatch r)
  | buffered (post : Posts .buffered r) : Asks r (createBuffered r)
  | describe {segment} (read : r.method ≠ .post ∧ r.method ≠ .put ∧ r.method ≠ .delete) :
      Asks r (describe segment)
  | change {segment} (put : r.method = .put)
      (path : Route.ofPath r.target.path = some (.offer segment)) : Asks r (change segment r)
  | remove {segment} (delete : r.method = .delete)
      (path : Route.ofPath r.target.path = some (.offer segment)) : Asks r (remove segment)

theorem asks_jobOf (r : Request) : Asks r (jobOf r) := by
  unfold jobOf
  split
  · exact .unknown
  · rename_i route path
    unfold Route.job
    cases route with
    | offers =>
      cases hm : r.method <;> first
        | exact .unfit
        | exact .create ⟨hm, path⟩
        | exact .list (by simp [hm])
    | batch =>
      by_cases post : r.method = .post
      · simp only [if_pos post, Option.getD_some]
        exact .batch ⟨post, path⟩
      · simp only [if_neg post, Option.getD_none]
        exact .unfit
    | buffered =>
      by_cases post : r.method = .post
      · simp only [if_pos post, Option.getD_some]
        exact .buffered ⟨post, path⟩
      · simp only [if_neg post, Option.getD_none]
        exact .unfit
    | offer segment =>
      cases hm : r.method <;> first
        | exact .unfit
        | exact .describe (by simp [hm])
        | exact .change hm path
        | exact .remove hm path

/-! ## Jobs that succeed -/

/-- Whatever the publisher says, the job changes nothing but counters, and is answered with
    success. -/
inductive Succeeds : Job → Prop
  | answer {a} (thanked : a.isSuccess = true) : Succeeds (.answer a)
  | publish {kind id next} (rest : ∀ v, Succeeds (next v)) : Succeeds (.publish kind id next)
  | count {change next} (rest : Succeeds next) : Succeeds (.count change next)
  | log {es next} (rest : Succeeds next) : Succeeds (.log es next)

namespace Succeeds

theorem announce {kind : EventKind} {id : UInt64} {next : Job} (h : Succeeds next) :
    Succeeds (.announce kind id next) := by
  refine .publish fun v => ?_
  rcases v with e | ⟨⟩
  · exact .log h
  · exact h

theorem heeds : Job.Heeds Succeeds := by
  refine ⟨?_, ?_⟩
  · intro o next h
    cases h
  · intro kind id next h v
    cases h with
    | publish rest => exact rest v

end Succeeds

/-! ## Jobs that do nothing before they succeed -/

/-- The job writes, publishes or counts only when it is sure to be answered with success. What it
    hands to the saver before that it hands over only if it may. -/
inductive Careful (may : Prop) : Job → Prop
  | answer {a} : Careful may (.answer a)
  | create {o next} (stored : ∀ id, Succeeds (next (.ok id)))
      (failed : ∀ e, Careful may (next (.error e))) : Careful may (.create o next)
  | createAll {os next} (stored : ∀ n, Succeeds (next (.ok n)))
      (failed : ∀ e, Careful may (next (.error e))) : Careful may (.createAll os next)
  | describe {id next} (rest : ∀ x, Careful may (next x)) : Careful may (.describe id next)
  | list {w next} (rest : ∀ x, Careful may (next x)) : Careful may (.list w next)
  | update {o next} (stored : Succeeds (next (.ok ())))
      (failed : ∀ e, Careful may (next (.error e))) : Careful may (.update o next)
  | remove {id next} (stored : Succeeds (next (.ok ())))
      (failed : ∀ e, Careful may (next (.error e))) : Careful may (.remove id next)
  | save {o next} (allowed : may) (rest : ∀ v, Careful may (next v)) : Careful may (.save o next)
  | log {es next} (rest : Careful may next) : Careful may (.log es next)

namespace Careful

variable {may : Prop}

theorem refuse (e : Error) : Careful may (.refuse e) := .log .answer

theorem given {α : Type} {input : Except Violation α} {next : α → Job}
    (h : ∀ a, input = .ok a → Careful may (next a)) : Careful may (.given input next) :=
  Job.given_cases h fun _ => .refuse _

theorem stored_error {α : Type} {next : α → Job} (e : Storage.Error) :
    Careful may (.stored next (.error e)) := .refuse _

theorem heeds (may : Prop) : Job.Heeds (Careful may) := by
  refine ⟨?_, ?_⟩
  · intro o next h v
    cases h with
    | save _ rest => exact rest v
  · intro kind id next h
    cases h

end Careful

theorem careful_saveEach {may : Prop} (allowed : may) (total accepted : Nat) (os : List Offer) :
    Careful may (saveEach total accepted os) := by
  induction os generalizing accepted with
  | nil => exact .answer
  | cons o os ih =>
    refine .save allowed fun v => ?_
    rcases v with e | ⟨⟩
    · exact .log (.refuse _)
    · exact ih (accepted + 1)

/-- No request has an effect before it is sure to be answered with success, but for requests to
    buffer a list that is in order. -/
theorem careful_jobOf (r : Request) : Careful (Posts .buffered r ∧ InOrder r) (jobOf r) := by
  generalize hjob : jobOf r = job
  cases hjob ▸ asks_jobOf r with
  | unknown => exact .answer
  | unfit => exact .answer
  | create =>
    exact .given fun _ _ => .create (fun _ => .announce (.count (.log (.answer rfl)))) .stored_error
  | list =>
    refine .given fun _ _ => .list fun x => ?_
    rcases x with e | ⟨os, info⟩
    · exact .stored_error e
    · exact .answer
  | batch => exact .given fun _ _ => .createAll (fun _ => .count (.log (.answer rfl))) .stored_error
  | buffered post => exact .given fun fs hlist => careful_saveEach ⟨post, fs, hlist⟩ _ _ _
  | describe =>
    refine .given fun _ _ => .describe fun x => ?_
    rcases x with e | o
    · exact .stored_error e
    · exact .answer
  | change => exact .given fun _ _ => .update (.announce (.count (.answer rfl))) .stored_error
  | remove => exact .given fun _ _ => .remove (.announce (.count (.answer rfl))) .stored_error

end OfferService.Api
