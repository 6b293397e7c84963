import OfferService.Proofs.Api.Requests
import OfferService.Proofs.Saver.Visit

/-
  OfferService.Proofs.Api.Buffering

  What comes of a request to buffer several offers. Its job hands the offers to the saver one after
  another, in the order of the list, and stops at the first that is declined; which ones were taken
  can be read off the job at any moment.
-/
namespace OfferService.Api

open OfferService.Http (Request Response)
open OfferService.Saver (Declines)

variable {os taken : List Offer} {declined : Option SaverError} {job : Job}

/-- The job only speaks before it answers so. -/
inductive Says (a : Response) : Job → Prop
  | answer : Says a (.answer a)
  | log {es next} (rest : Says a next) : Says a (.log es next)

/-- How far the job of a request to buffer `os` has come: the saver has taken `taken`, and if it has
    declined the next one, the job answers so. -/
inductive Buffers (os : List Offer) : (taken : List Offer) → (declined : Option SaverError) →
    Job → Prop
  | going {taken rest} (split : taken ++ rest = os) :
      Buffers os taken none (saveEach os.length taken.length rest)
  | halted {taken o rest e job} (split : taken ++ o :: rest = os) (why : Declines e)
      (ending : Says (Error.saver e).response job) : Buffers os taken (some e) job

/-- What the request is answered with at the end: all offers were taken, or the error of the first
    that was declined. -/
inductive Buffered (os : List Offer) : (taken : List Offer) → (declined : Option SaverError) →
    Response → Prop
  | all : Buffered os os none (.json 202 (numbered "accepted" os.length))
  | some {taken o rest e} (split : taken ++ o :: rest = os) (why : Declines e) :
      Buffered os taken (some e) (Error.saver e).response

namespace Buffers

/-- With a verdict of the saver the job goes on to the next offer, or comes to its end. -/
theorem told {o : Offer} {next : Saver.Verdict → Job}
    (h : Buffers os taken declined (.save o next)) :
    declined = none ∧ Buffers os (taken ++ [o]) none (next (.ok ())) ∧
      ∀ e, Declines e → Buffers os taken (some e) (next (.error e)) := by
  generalize hjob : Job.save o next = job at h
  cases h with
  | @going rest split =>
    cases rest with
    | nil => cases hjob
    | cons p rest =>
      cases hjob
      refine ⟨rfl, ?_, ?_⟩
      · have hgoing := Buffers.going (show taken ++ [o] ++ rest = os by simpa using split)
        rw [List.length_append] at hgoing
        exact hgoing
      · intro e why
        exact .halted split why (.log (.log .answer))
  | halted split why ending =>
    rw [← hjob] at ending
    cases ending

theorem said {es : List Log.Entry} {next : Job} (h : Buffers os taken declined (.log es next)) :
    Buffers os taken declined next := by
  generalize hjob : Job.log es next = job at h
  cases h with
  | @going rest split => cases rest <;> cases hjob
  | halted split why ending =>
    rw [← hjob] at ending
    cases ending with
    | log rest => exact .halted split why rest

theorem answered {b : Response} (h : Buffers os taken declined (.answer b)) :
    Buffered os taken declined b := by
  generalize hjob : Job.answer b = job at h
  cases h with
  | @going rest split =>
    cases rest with
    | nil =>
      cases hjob
      rw [List.append_nil] at split
      rw [split]
      exact .all
    | cons p rest => cases hjob
  | halted split why ending =>
    rw [← hjob] at ending
    cases ending
    exact .some split why

/-- The job saves, ending something or answers. -/
theorem cases (h : Buffers os taken declined job) :
    (∃ o next, job = .save o next) ∨ (∃ es next, job = .log es next) ∨ ∃ b, job = .answer b := by
  cases h with
  | @going rest =>
    cases rest with
    | nil => exact Or.inr (Or.inr ⟨_, rfl⟩)
    | cons o rest => exact Or.inl ⟨o, _, rfl⟩
  | halted split why ending =>
    cases ending with
    | answer => exact Or.inr (Or.inr ⟨_, rfl⟩)
    | log => exact Or.inr (Or.inl ⟨_, _, rfl⟩)

/-- A request to buffer a list that is in order begins with its first offer. -/
theorem jobOf {r : Request} {fs : List OfferFields} (post : Posts .buffered r)
    (hlist : offerList r = .ok fs) : Buffers (fs.map (·.toOffer 0)) [] none (jobOf r) := by
  rw [jobOf_of_buffered post, createBuffered, hlist]
  have hgoing := Buffers.going (List.nil_append (fs.map (·.toOffer 0)))
  rw [List.length_map] at hgoing
  exact hgoing

end Buffers

/-- A full buffer is answered with 429, and a saver that takes no offers with 503. -/
theorem status_of_declines {e : SaverError} (h : Declines e) :
    (∃ n, e = .capacityReached n) ∧ (Error.saver e).response.status = 429 ∨
      (e = .closed ∨ e = .notInitialized) ∧ (Error.saver e).response.status = 503 := by
  rcases h with ⟨n, rfl⟩ | rfl | rfl
  · exact Or.inl ⟨⟨n, rfl⟩, rfl⟩
  · exact Or.inr ⟨Or.inl rfl, rfl⟩
  · exact Or.inr ⟨Or.inr rfl, rfl⟩

/-- The request is accepted just if all its offers were taken. -/
theorem Buffered.status_eq_iff {b : Response} (h : Buffered os taken declined b) :
    b.status = 202 ↔ taken = os := by
  cases h with
  | all => exact ⟨fun _ => rfl, fun _ => rfl⟩
  | some split why =>
    constructor
    · intro accepted
      rcases status_of_declines why with ⟨-, full⟩ | ⟨-, closed⟩
      · rw [full] at accepted
        cases accepted
      · rw [closed] at accepted
        cases accepted
    · intro all
      rw [all] at split
      exact absurd (List.self_eq_append_right.mp split.symm) (List.cons_ne_nil _ _)

end OfferService.Api
