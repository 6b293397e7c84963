import OfferService.Proofs.Api.Requests

/-
  OfferService.Proofs.Api.Heedless

  Jobs to which it makes no difference what the publisher tells them. `Job.still` is what is left of
  a job up to the next thing that it does with offers, or up to its answer; `Job.tally` is what it
  counts on the way there. Both are the same for a job that was told that its event is in the queue
  and for one that was not.
-/
namespace OfferService

/-- The counters without those of flushes. -/
def Metrics.tallied (n : Metrics) : Metrics :=
  { n with flushedOffers := 0, flushFailures := 0, retainedOffers := 0 }

@[simp] theorem Metrics.tallied_tallied (n : Metrics) : n.tallied.tallied = n.tallied := rfl

namespace Api

open OfferService.Http (Request Response)

namespace Job

/-- What is left of a job when it has sent, counted and logged all that comes before the next thing
    that it does with offers. -/
def still : Job → Job
  | .publish _ _ next => (next (.ok ())).still
  | .count _ next => next.still
  | .log _ next => next.still
  | job => job

/-- The counters when that is done. -/
def tally : Job → Metrics → Metrics
  | .publish _ _ next, n => (next (.ok ())).tally n
  | .count change next, n => next.tally (change n)
  | .log _ next, n => next.tally n
  | _, n => n

/-- Is the next thing done with offers? -/
def isData : Job → Bool
  | .answer _ => false
  | .publish .. => false
  | .count .. => false
  | .log .. => false
  | _ => true

/-- Is the next thing handed to the saver? -/
def isSave : Job → Bool
  | .save .. => true
  | _ => false

theorem still_of_isData {job : Job} (h : job.isData = true) : job.still = job := by
  cases job <;> first | rfl | cases h

theorem tally_of_isData {job : Job} (h : job.isData = true) (n : Metrics) : job.tally n = n := by
  cases job <;> first | rfl | cases h

theorem isData_of_isSave {job : Job} (h : job.isSave = true) : job.isData = true := by
  cases job <;> first | rfl | cases h

/-- What is left is an answer or something to do with offers. -/
theorem still_cases (job : Job) : job.still.isData = true ∨ ∃ b, job.still = .answer b := by
  induction job with
  | answer b => exact Or.inr ⟨b, rfl⟩
  | publish kind id next ih => exact ih (.ok ())
  | count change next ih => exact ih
  | log es next ih => exact ih
  | _ => exact Or.inl rfl

@[simp] theorem still_still (job : Job) : job.still.still = job.still := by
  rcases job.still_cases with hdata | ⟨b, hanswer⟩
  · exact still_of_isData hdata
  · rw [hanswer]
    rfl

@[simp] theorem tally_still (job : Job) (n : Metrics) : job.still.tally n = n := by
  rcases job.still_cases with hdata | ⟨b, hanswer⟩
  · exact tally_of_isData hdata n
  · rw [hanswer]
    rfl

end Job

/-! ## Jobs -/

/-- The change is one of the counters that are not of flushes. -/
def Local (change : Metrics → Metrics) : Prop :=
  ∀ n, (change n).tallied = (change n.tallied).tallied

/-- Whatever the publisher says, the job does the same with offers, counts the same and gives the
    same answer. -/
inductive Heedless : Job → Prop
  | answer {a} : Heedless (.answer a)
  | create {o next} (rest : ∀ x, Heedless (next x)) : Heedless (.create o next)
  | createAll {os next} (rest : ∀ x, Heedless (next x)) : Heedless (.createAll os next)
  | describe {id next} (rest : ∀ x, Heedless (next x)) : Heedless (.describe id next)
  | list {w next} (rest : ∀ x, Heedless (next x)) : Heedless (.list w next)
  | update {o next} (rest : ∀ x, Heedless (next x)) : Heedless (.update o next)
  | remove {id next} (rest : ∀ x, Heedless (next x)) : Heedless (.remove id next)
  | save {o next} (rest : ∀ v, Heedless (next v)) : Heedless (.save o next)
  | publish {kind id next} (rest : ∀ v, Heedless (next v))
      (still : ∀ v, (next v).still = (next (.ok ())).still)
      (tally : ∀ v n, (next v).tally n = (next (.ok ())).tally n) :
      Heedless (.publish kind id next)
  | count {change next} (own : Local change) (rest : Heedless next) :
      Heedless (.count change next)
  | log {es next} (rest : Heedless next) : Heedless (.log es next)

namespace Heedless

variable {job next : Job} {r : Request}

theorem refuse (e : Error) : Heedless (.refuse e) := .log .answer

theorem given {α : Type} {input : Except Violation α} {next : α → Job}
    (h : ∀ a, Heedless (next a)) : Heedless (.given input next) :=
  Job.given_cases (fun a _ => h a) fun _ => .refuse _

theorem stored {α : Type} {next : α → Job} (h : ∀ a, Heedless (next a))
    (x : Except Storage.Error α) : Heedless (.stored next x) := by
  rcases x with e | a
  · exact .refuse _
  · exact h a

/-- A job that says that its event was not sent goes on like one that was sent. -/
theorem announce {kind : EventKind} {id : UInt64} (h : Heedless next) :
    Heedless (.announce kind id next) := by
  refine .publish (fun v => ?_) (fun v => ?_) fun v n => ?_
  · rcases v with e | ⟨⟩
    · exact .log h
    · exact h
  · rcases v with e | ⟨⟩ <;> rfl
  · rcases v with e | ⟨⟩ <;> rfl

theorem saveEach (total accepted : Nat) (os : List Offer) :
    Heedless (saveEach total accepted os) := by
  induction os generalizing accepted with
  | nil => exact .answer
  | cons o os ih =>
    refine .save fun v => ?_
    rcases v with e | ⟨⟩
    · exact .log (.refuse _)
    · exact ih (accepted + 1)

theorem heeds : Job.Heeds Heedless := by
  refine ⟨?_, ?_⟩
  · intro o next h v
    cases h with
    | save rest => exact rest v
  · intro kind id next h v
    cases h with
    | publish rest => exact rest v

theorem still (h : Heedless job) : Heedless job.still := by
  induction h with
  | answer => exact .answer
  | create rest => exact .create rest
  | createAll rest => exact .createAll rest
  | describe rest => exact .describe rest
  | list rest => exact .list rest
  | update rest => exact .update rest
  | remove rest => exact .remove rest
  | save rest => exact .save rest
  | publish _ _ _ ih => exact ih (.ok ())
  | count _ _ ih => exact ih
  | log _ ih => exact ih

/-- What a job counts does not depend on the counters of flushes. -/
theorem tally_congr (h : Heedless job) {m n : Metrics} (same : m.tallied = n.tallied) :
    (job.tally m).tallied = (job.tally n).tallied := by
  induction h generalizing m n with
  | publish _ _ _ ih => exact ih (.ok ()) same
  | count own rest ih =>
    apply ih
    rw [own m, own n, same]
  | log rest ih => exact ih same
  | _ => exact same

end Heedless

/-- No request is answered in another way, or has another effect on offers and counters, because of
    what the publisher says. -/
theorem heedless_jobOf (r : Request) : Heedless (jobOf r) := by
  generalize hjob : jobOf r = job
  cases hjob ▸ asks_jobOf r with
  | unknown => exact .answer
  | unfit => exact .answer
  | create =>
    exact .given fun fields => .create (.stored fun id =>
      .announce (.count (fun _ => rfl) (.log .answer)))
  | list => exact .given fun w => .list (.stored fun page => .answer)
  | batch =>
    exact .given fun fs => .createAll (.stored fun n => .count (fun _ => rfl) (.log .answer))
  | buffered => exact .given fun fs => .saveEach _ _ _
  | describe => exact .given fun id => .describe (.stored fun o => .answer)
  | change =>
    exact .given fun o => .update (.stored fun _ => .announce (.count (fun _ => rfl) .answer))
  | remove =>
    exact .given fun id => .remove (.stored fun _ => .announce (.count (fun _ => rfl) .answer))

end Api

end OfferService
