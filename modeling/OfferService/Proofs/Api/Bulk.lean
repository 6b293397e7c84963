import OfferService.Proofs.Api.Debts
import OfferService.Proofs.Storage.Range

/-
  OfferService.Proofs.Api.Bulk

  What comes of a request to create several offers, at once or through the saver. Both read and
  check the list alike. What no column can hold is found by storage only: at once it is answered as
  a fault of the request, and through the saver it is not answered at all. `Ends` says how a job can
  end, case by case over the things it does.
-/
namespace OfferService.Api

open OfferService.Http (Request Response)
open OfferService.Storage (Storable)

variable {r r' : Request} {fs : List OfferFields}

/-! ## Requests -/

/-- The request is to create what it holds, by way of the route. -/
def Posts (route : Route) (r : Request) : Prop :=
  r.method = .post ∧ Route.ofPath r.target.path = some route

instance (route : Route) : DecidablePred (Posts route) := fun _ =>
  inferInstanceAs (Decidable (_ ∧ _))

/-- The list of offers in a request can be read, and nothing is wrong with it. -/
def InOrder (r : Request) : Prop := ∃ fs, offerList r = .ok fs

theorem not_inOrder_of_error {v : Violation} (h : offerList r = .error v) : ¬ InOrder r := by
  rintro ⟨fs, hlist⟩
  rw [h] at hlist
  cases hlist

/-- The list of offers in a request is in order, but has a number that no column can hold. -/
def OutOfRange (r : Request) : Prop :=
  ∃ fs, offerList r = .ok fs ∧ ∃ f ∈ fs, ¬ Storable (f.toOffer 0)

/-- The requests have the same headers and the same body. -/
def Alike (r r' : Request) : Prop := r'.headers = r.headers ∧ r'.body = r.body

/-- Nothing else of a request is looked at to read its list. -/
theorem Alike.offerList_eq (h : Alike r r') : offerList r' = offerList r := by
  obtain ⟨headers, body⟩ := h
  unfold offerList readBody Request.header?
  rw [headers, body]

theorem Alike.inOrder_iff (h : Alike r r') : InOrder r' ↔ InOrder r := by
  rw [InOrder, InOrder, h.offerList_eq]

/-- A list that is in order is not too long. -/
theorem length_le_of_offerList (h : offerList r = .ok fs) : fs.length ≤ maxBatch := by
  unfold offerList at h
  cases hread : readBody (OfferFields.listShape.read .text) r with
  | error v =>
    rw [hread] at h
    cases h
  | ok list =>
    rw [hread] at h
    cases hcheck : OfferFields.checkList list with
    | error v =>
      simp only [bind, Except.bind, hcheck] at h
      cases h
    | ok _ =>
      simp only [bind, Except.bind, hcheck] at h
      cases h
      unfold OfferFields.checkList at hcheck
      split at hcheck
      · cases hcheck
      · split at hcheck
        · cases hcheck
        · omega

/-! ## How jobs end -/

/-- All that can come of a job that only creates several offers: with storage that is fair, it is
    answered with a status of which `P` holds, and it hands offers to the saver only if it may. -/
inductive Ends (fair : List Offer → Except Storage.Error Nat → Prop) (hands : Prop)
    (P : Nat → Prop) : Job → Prop
  | answer {a} (status : P a.status) : Ends fair hands P (.answer a)
  | createAll {os next} (few : os.length ≤ maxBatch)
      (rest : ∀ x, fair os x → Ends fair hands P (next x)) : Ends fair hands P (.createAll os next)
  | save {o next} (may : hands) (rest : ∀ v, Ends fair hands P (next v)) :
      Ends fair hands P (.save o next)
  | count {change next} (rest : Ends fair hands P next) : Ends fair hands P (.count change next)
  | log {es next} (rest : Ends fair hands P next) : Ends fair hands P (.log es next)

namespace Ends

variable {fair : List Offer → Except Storage.Error Nat → Prop} {hands : Prop} {P : Nat → Prop}

theorem refuse {e : Error} (h : P e.status) : Ends fair hands P (.refuse e) := .log (.answer h)

/-- Whatever the saver says, the job comes to one of its ends. -/
theorem heeds : Job.Heeds (Ends fair hands P) := by
  refine ⟨?_, ?_⟩
  · intro o next hends v
    cases hends with
    | save _ rest => exact rest v
  · intro kind id next hends
    cases hends

end Ends

/-! ## Both handlers -/

/-- A list that is not in order, or that storage finds out of range, is answered with 400. -/
theorem ends_createBatch (r : Request) :
    Ends Storage.Store.Fair False (fun n => n = 400 ↔ ¬ InOrder r ∨ OutOfRange r)
      (createBatch r) := by
  unfold createBatch Job.given
  cases hlist : offerList r with
  | error v =>
    have hnot := not_inOrder_of_error hlist
    exact .refuse ⟨fun _ => Or.inl hnot, fun _ => rfl⟩
  | ok fs =>
    have horder : InOrder r := ⟨fs, hlist⟩
    refine .createAll (by rw [List.length_map]; exact length_le_of_offerList hlist) ?_
    rintro x (⟨all, rfl⟩ | ⟨bad, n, rfl⟩)
    · have hrange : ¬ OutOfRange r := by
        rintro ⟨fs', hfs', f, hf, hnot⟩
        rw [hlist] at hfs'
        cases hfs'
        exact hnot (all _ (List.mem_map_of_mem hf))
      refine .count (.log (.answer ⟨nofun, ?_⟩))
      rintro (hnot | hout)
      · exact absurd horder hnot
      · exact absurd hout hrange
    · obtain ⟨o, ho, hnot⟩ := bad
      obtain ⟨f, hf, rfl⟩ := List.mem_map.mp ho
      exact .refuse ⟨fun _ => Or.inr ⟨fs, hlist, f, hf, hnot⟩, fun _ => rfl⟩

/-- The saver refuses nobody with 400. -/
theorem status_saver_ne (e : SaverError) : (Error.saver e).status ≠ 400 := by
  cases e <;> nofun

theorem ends_saveEach {fair : List Offer → Except Storage.Error Nat → Prop} {hands : Prop}
    {P : Nat → Prop} (may : hands) (other : ∀ n, n ≠ 400 → P n) (total accepted : Nat)
    (os : List Offer) : Ends fair hands P (saveEach total accepted os) := by
  induction os generalizing accepted with
  | nil => exact .answer (other _ nofun)
  | cons o os ih =>
    refine .save may fun v => ?_
    rcases v with e | ⟨⟩
    · exact .log (.refuse (other _ (status_saver_ne e)))
    · exact ih (accepted + 1)

/-- A list that is not in order is answered with 400, and none of it is handed to the saver. -/
theorem ends_createBuffered (fair : List Offer → Except Storage.Error Nat → Prop) (r : Request) :
    Ends fair (InOrder r) (fun n => n = 400 ↔ ¬ InOrder r) (createBuffered r) := by
  unfold createBuffered Job.given
  cases hlist : offerList r with
  | error v =>
    have hnot := not_inOrder_of_error hlist
    exact .refuse ⟨fun _ => hnot, fun _ => rfl⟩
  | ok fs =>
    have horder : InOrder r := ⟨fs, hlist⟩
    exact ends_saveEach horder (fun n hn => ⟨fun h => absurd h hn, fun hnot => absurd horder hnot⟩)
      _ _ _

theorem jobOf_of_batch (h : Posts .batch r) : jobOf r = createBatch r := by
  obtain ⟨post, path⟩ := h
  unfold jobOf
  rw [path]
  simp only [Route.job, if_pos post, Option.getD_some]

theorem jobOf_of_buffered (h : Posts .buffered r) : jobOf r = createBuffered r := by
  obtain ⟨post, path⟩ := h
  unfold jobOf
  rw [path]
  simp only [Route.job, if_pos post, Option.getD_some]

/-- A request to buffer a list that is not in order is refused at once. -/
theorem jobOf_of_not_inOrder (h : Posts .buffered r) (hnot : ¬ InOrder r) :
    ∃ reason, jobOf r = .refuse (.invalid reason) := by
  rw [jobOf_of_buffered h, createBuffered]
  unfold Job.given
  split
  · rename_i fs hlist
    exact absurd ⟨fs, hlist⟩ hnot
  · rename_i v _
    exact ⟨v.message, rfl⟩

end OfferService.Api
