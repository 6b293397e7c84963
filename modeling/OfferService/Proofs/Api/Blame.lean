import OfferService.Proofs.Api.Requests
import OfferService.Proofs.Storage.Blame

/-
  OfferService.Proofs.Api.Blame

  Where a server error comes from. No handler answers with one of its own accord: whatever is wrong
  with a request is its own fault, and a job is answered with 500 or more only if storage or the saver
  has failed with an error of that status.
-/
namespace OfferService.Api

open OfferService.Http (Request Response)

variable {n : Nat}

/-! ## Errors -/

/-- If storage has failed through nobody's fault who asked, that is answered with 500. -/
theorem Error.status_storage {e : Storage.Error} (server : 500 ≤ (Error.storage e).status) :
    (Error.storage e).status = 500 ∧ e.isOfAsker = false := by
  cases e with
  | offerNotFound => exact absurd server (by show ¬ 500 ≤ 404; decide)
  | valueOutOfRange => exact absurd server (by show ¬ 500 ≤ 400; decide)
  | zeroPageSize => exact absurd server (by show ¬ 500 ≤ 400; decide)
  | _ => exact ⟨rfl, rfl⟩

/-! ## Jobs -/

/-- How many ids storage needs for the first thing that is left to do. -/
def Job.needs : Job → Nat
  | .create _ _ => 1
  | .createAll os _ => os.length
  | _ => 0

/-- Storage has not failed with an error of this status. -/
def Unlike (n : Nat) {α : Type} (x : Except Storage.Error α) : Prop :=
  ∀ e, x = .error e → (Error.storage e).status ≠ n

/-- The job is not answered with the status `n`, unless storage or the saver fails with an error of
    that status. -/
inductive Avoids (n : Nat) : Job → Prop
  | answer {a} (other : a.status ≠ n) : Avoids n (.answer a)
  | create {o next} (rest : ∀ x, Unlike n x → Avoids n (next x)) : Avoids n (.create o next)
  | createAll {os next} (rest : ∀ x, Unlike n x → Avoids n (next x)) : Avoids n (.createAll os next)
  | describe {id next} (rest : ∀ x, Unlike n x → Avoids n (next x)) : Avoids n (.describe id next)
  | list {w next} (rest : ∀ x, Unlike n x → Avoids n (next x)) : Avoids n (.list w next)
  | update {o next} (rest : ∀ x, Unlike n x → Avoids n (next x)) : Avoids n (.update o next)
  | remove {id next} (rest : ∀ x, Unlike n x → Avoids n (next x)) : Avoids n (.remove id next)
  | save {o next} (taken : Avoids n (next (.ok ())))
      (refused : ∀ e, (Error.saver e).status ≠ n → Avoids n (next (.error e))) :
      Avoids n (.save o next)
  | publish {kind id next} (rest : ∀ v, Avoids n (next v)) : Avoids n (.publish kind id next)
  | count {change next} (rest : Avoids n next) : Avoids n (.count change next)
  | log {es next} (rest : Avoids n next) : Avoids n (.log es next)

namespace Avoids

theorem refuse {e : Error} (other : e.status ≠ n) : Avoids n (.refuse e) := .log (.answer other)

/-- A request that is not in order is answered with 400. -/
theorem given {α : Type} {input : Except Violation α} {next : α → Job} (server : 500 ≤ n)
    (h : ∀ a, Avoids n (next a)) : Avoids n (.given input next) := by
  refine Job.given_cases (fun a _ => h a) fun reason => .refuse ?_
  show 400 ≠ n
  omega

theorem stored {α : Type} {next : α → Job} (h : ∀ a, Avoids n (next a))
    (x : Except Storage.Error α) (unlike : Unlike n x) : Avoids n (.stored next x) := by
  rcases x with e | a
  · exact .refuse (unlike e rfl)
  · exact h a

theorem announce {kind : EventKind} {id : UInt64} {next : Job} (h : Avoids n next) :
    Avoids n (.announce kind id next) := by
  refine .publish fun v => ?_
  rcases v with e | ⟨⟩
  · exact .log h
  · exact h

/-- What the saver refuses is answered with the status of its error. -/
theorem saveEach (server : 500 ≤ n) (total accepted : Nat) (os : List Offer) :
    Avoids n (saveEach total accepted os) := by
  induction os generalizing accepted with
  | nil =>
    refine .answer ?_
    show 202 ≠ n
    omega
  | cons o os ih => exact .save (ih (accepted + 1)) fun e other => .log (.refuse other)

end Avoids

/-- No request is answered with a server error, unless storage or the saver fails with one. -/
theorem avoids_jobOf (server : 500 ≤ n) (r : Request) : Avoids n (jobOf r) := by
  have hother {a : Response} (client : a.status < 500) : Avoids n (.answer a) :=
    .answer (by omega)
  generalize hjob : jobOf r = job
  cases hjob ▸ asks_jobOf r with
  | unknown => exact hother (by decide)
  | unfit => exact hother (show 405 < 500 by decide)
  | create =>
    refine .given server fun fields => .create (.stored fun id => ?_)
    exact .announce (.count (.log (hother (show 200 < 500 by decide))))
  | list =>
    refine .given server fun w => .list (.stored fun p => ?_)
    exact hother (show 200 < 500 by decide)
  | batch =>
    refine .given server fun fs => .createAll (.stored fun count => ?_)
    exact .count (.log (hother (show 200 < 500 by decide)))
  | buffered => exact .given server fun fs => .saveEach server _ _ _
  | describe =>
    refine .given server fun id => .describe (.stored fun o => ?_)
    exact hother (show 200 < 500 by decide)
  | change =>
    refine .given server fun o => .update (.stored fun _ => ?_)
    exact .announce (.count (hother (show 204 < 500 by decide)))
  | remove =>
    refine .given server fun id => .remove (.stored fun _ => ?_)
    exact .announce (.count (hother (show 204 < 500 by decide)))

end OfferService.Api
