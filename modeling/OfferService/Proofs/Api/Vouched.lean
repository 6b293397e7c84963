import OfferService.Proofs.Api.News

/-
  OfferService.Proofs.Api.Vouched

  Which offers a request gives. Whatever a handler writes, at once or by way of the saver, its request
  has given, and was checked: it has a user and a team. What is handed to the saver has no id yet and
  no mark. `Vouched` says so of all that a job may come to, whatever it is told on the way.
-/
namespace OfferService.Api

open OfferService.Http (Request)

variable {r : Request} {f : OfferFields} {fs : List OfferFields} {o : Offer}

/-! ## Checks -/

/-- The fields name a user and a team. -/
structure OfferFields.Checked (f : OfferFields) : Prop where
  user : f.userId ≠ 0
  team : f.teamId ≠ 0

theorem OfferFields.checked_of_check (h : f.check = .ok ()) : f.Checked := by
  unfold check at h
  split at h
  · cases h
  · rename_i user
    split at h
    · cases h
    · rename_i team
      exact ⟨user, team⟩

theorem OfferFields.checked_of_mapError {fault : FieldFault → Violation}
    (h : f.check.mapError fault = .ok ()) : f.Checked := by
  apply checked_of_check
  cases hcheck : f.check with
  | ok => rfl
  | error e =>
    rw [hcheck] at h
    cases h

theorem OfferFields.checked_of_checkEach {i : Nat} (h : checkEach i fs = .ok ()) :
    ∀ f ∈ fs, f.Checked := by
  induction fs generalizing i with
  | nil => exact nofun
  | cons f rest ih =>
    unfold checkEach at h
    split at h
    · cases h
    · rename_i hcheck
      exact List.forall_mem_cons.mpr ⟨checked_of_check hcheck, ih h⟩

/-- The fields of one offer are taken only when they were checked. -/
theorem checked_of_offerFields (h : offerFields r = .ok f) : f.Checked := by
  obtain ⟨fields, -, h⟩ := exists_of_bind_eq_ok h
  obtain ⟨⟨⟩, hcheck, h⟩ := exists_of_bind_eq_ok h
  cases h
  exact OfferFields.checked_of_mapError hcheck

/-- A list is taken only when all of it was checked. -/
theorem checked_of_offerList (h : offerList r = .ok fs) : ∀ f ∈ fs, f.Checked := by
  obtain ⟨fields, -, h⟩ := exists_of_bind_eq_ok h
  obtain ⟨⟨⟩, hcheck, h⟩ := exists_of_bind_eq_ok h
  cases h
  unfold OfferFields.checkList at hcheck
  split at hcheck
  · cases hcheck
  · split at hcheck
    · cases hcheck
    · exact OfferFields.checked_of_checkEach hcheck

/-- A change is taken only when its fields were checked. -/
theorem checked_of_offerChange {segment : String} (h : offerChange segment r = .ok o) :
    ∃ (id : UInt64) (f : OfferFields), o = f.toOffer id ∧ f.Checked := by
  obtain ⟨id, -, h⟩ := exists_of_bind_eq_ok h
  obtain ⟨fields, -, h⟩ := exists_of_bind_eq_ok h
  obtain ⟨⟨⟩, -, h⟩ := exists_of_bind_eq_ok h
  obtain ⟨⟨⟩, hcheck, h⟩ := exists_of_bind_eq_ok h
  cases h
  exact ⟨id, fields, rfl, OfferFields.checked_of_mapError hcheck⟩

/-! ## What requests give -/

/-- The request gives this offer to the saver. -/
inductive Hands (r : Request) : Offer → Prop
  | buffered {fs : List OfferFields} {f : OfferFields} (post : Posts .buffered r)
      (list : offerList r = .ok fs) (mem : f ∈ fs) : Hands r (f.toOffer 0)

/-- The request gives this offer to be written: as a new one, alone, with others or by way of the
    saver, or as what another one is changed to. -/
inductive Gives (r : Request) : Offer → Prop
  | create {f : OfferFields} (post : Posts .offers r) (fields : offerFields r = .ok f) :
      Gives r (f.toOffer 0)
  | batch {fs : List OfferFields} {f : OfferFields} (post : Posts .batch r)
      (list : offerList r = .ok fs) (mem : f ∈ fs) : Gives r (f.toOffer 0)
  | buffered {o : Offer} (hands : Hands r o) : Gives r o
  | change {segment : String} {o : Offer} (put : r.method = .put)
      (path : Route.ofPath r.target.path = some (.offer segment))
      (change : offerChange segment r = .ok o) : Gives r o

/-- What is handed to the saver has a user and a team, but neither an id nor a mark. -/
theorem Hands.fresh (h : Hands r o) :
    o.id = 0 ∧ o.userId ≠ 0 ∧ o.teamId ≠ 0 ∧ o.isDeleted = false := by
  cases h with
  | buffered _ list mem =>
    obtain ⟨user, team⟩ := checked_of_offerList list _ mem
    exact ⟨rfl, user, team, rfl⟩

/-- What is given to be written has a user and a team. -/
theorem Gives.checked (h : Gives r o) : o.userId ≠ 0 ∧ o.teamId ≠ 0 := by
  cases h with
  | create _ fields =>
    obtain ⟨user, team⟩ := checked_of_offerFields fields
    exact ⟨user, team⟩
  | batch _ list mem =>
    obtain ⟨user, team⟩ := checked_of_offerList list _ mem
    exact ⟨user, team⟩
  | buffered hands =>
    obtain ⟨-, user, team, -⟩ := hands.fresh
    exact ⟨user, team⟩
  | change _ _ change =>
    obtain ⟨id, f, rfl, user, team⟩ := checked_of_offerChange change
    exact ⟨user, team⟩

/-! ## Jobs -/

/-- Whatever the job is told, it writes only offers that the request gives, and hands to the saver
    only those that the request gives to it. -/
inductive Vouched (r : Request) : Job → Prop
  | answer {a} : Vouched r (.answer a)
  | create {o : Offer} {next} (given : Gives r o) (rest : ∀ x, Vouched r (next x)) :
      Vouched r (.create o next)
  | createAll {os next} (given : ∀ o ∈ os, Gives r o) (rest : ∀ x, Vouched r (next x)) :
      Vouched r (.createAll os next)
  | describe {id next} (rest : ∀ x, Vouched r (next x)) : Vouched r (.describe id next)
  | list {w next} (rest : ∀ x, Vouched r (next x)) : Vouched r (.list w next)
  | update {o : Offer} {next} (given : Gives r o) (rest : ∀ x, Vouched r (next x)) :
      Vouched r (.update o next)
  | remove {id next} (rest : ∀ x, Vouched r (next x)) : Vouched r (.remove id next)
  | save {o : Offer} {next} (handed : Hands r o) (rest : ∀ v, Vouched r (next v)) :
      Vouched r (.save o next)
  | publish {kind id next} (rest : ∀ v, Vouched r (next v)) : Vouched r (.publish kind id next)
  | count {change next} (rest : Vouched r next) : Vouched r (.count change next)
  | log {es next} (rest : Vouched r next) : Vouched r (.log es next)

namespace Vouched

theorem refuse (e : Error) : Vouched r (.refuse e) := .log .answer

theorem given {α : Type} {input : Except Violation α} {next : α → Job}
    (h : ∀ a, input = .ok a → Vouched r (next a)) : Vouched r (.given input next) :=
  Job.given_cases h fun _ => .refuse _

theorem stored {α : Type} {next : α → Job} (h : ∀ a, Vouched r (next a))
    (x : Except Storage.Error α) : Vouched r (.stored next x) := by
  rcases x with e | a
  · exact .refuse _
  · exact h a

theorem announce {kind : EventKind} {id : UInt64} {next : Job} (h : Vouched r next) :
    Vouched r (.announce kind id next) := by
  refine .publish fun v => ?_
  rcases v with e | ⟨⟩
  · exact .log h
  · exact h

theorem saveEach {os : List Offer} (handed : ∀ o ∈ os, Hands r o) (total accepted : Nat) :
    Vouched r (saveEach total accepted os) := by
  induction os generalizing accepted with
  | nil => exact .answer
  | cons o os ih =>
    obtain ⟨hfirst, hrest⟩ := List.forall_mem_cons.mp handed
    refine .save hfirst fun v => ?_
    rcases v with e | ⟨⟩
    · exact .log (.refuse _)
    · exact ih hrest (accepted + 1)

theorem heeds (r : Request) : Job.Heeds (Vouched r) := by
  refine ⟨?_, ?_⟩
  · intro o next h v
    cases h with
    | save _ rest => exact rest v
  · intro kind id next h v
    cases h with
    | publish rest => exact rest v

end Vouched

/-- What is done for a request writes nothing but what the request gives. -/
theorem vouched_jobOf (r : Request) : Vouched r (jobOf r) := by
  generalize hjob : jobOf r = job
  cases hjob ▸ asks_jobOf r with
  | unknown => exact .answer
  | unfit => exact .answer
  | create post =>
    refine .given fun f fields => .create (.create post fields) (.stored fun id => ?_)
    exact .announce (.count (.log .answer))
  | list => exact .given fun w _ => .list (.stored fun page => .answer)
  | batch post =>
    refine .given fun fs list => .createAll ?_ (.stored fun n => .count (.log .answer))
    intro o ho
    obtain ⟨f, mem, rfl⟩ := List.mem_map.mp ho
    exact .batch post list mem
  | buffered post =>
    refine .given fun fs list => .saveEach ?_ _ _
    intro o ho
    obtain ⟨f, mem, rfl⟩ := List.mem_map.mp ho
    exact .buffered post list mem
  | describe => exact .given fun id _ => .describe (.stored fun o => .answer)
  | change put path =>
    refine .given fun o change => .update (.change put path change) (.stored fun _ => ?_)
    exact .announce (.count .answer)
  | remove =>
    exact .given fun id _ => .remove (.stored fun _ => .announce (.count .answer))

end OfferService.Api
