import OfferService.Proofs.Api.Requests
import OfferService.Proofs.Fallible

/-
  OfferService.Proofs.Api.News

  What is to be published of a request. `Heralds` reads it off the request and its answer; `Brings`
  follows a job from the change that storage makes, through the event that is sent about it, to the
  answer. A job sends an event only of what storage has changed, and answers only when it is sent.
-/
namespace OfferService.Api

open OfferService.Http (Request Response)

/-- What has happened to which offer. -/
abbrev News := EventKind × UInt64

variable {r : Request} {b : Response} {news owed : List News} {job : Job}

/-! ## Answers -/

/-- What is to be published of a request that is answered so. -/
inductive Heralds (r : Request) (b : Response) : List News → Prop
  | created {id} (post : Posts .offers r) (answer : b = .json 200 (numbered "id" id.toNat)) :
      Heralds r b [(.created, id)]
  | updated {segment id} (put : r.method = .put)
      (path : Route.ofPath r.target.path = some (.offer segment))
      (names : offerId segment = .ok id) (done : b.status = 204) : Heralds r b [(.updated, id)]
  | removed {segment id} (delete : r.method = .delete)
      (path : Route.ofPath r.target.path = some (.offer segment))
      (names : offerId segment = .ok id) (done : b.status = 204) : Heralds r b [(.removed, id)]
  | nothing (create : Posts .offers r → b.status ≠ 200)
      (change : r.method = .put ∨ r.method = .delete → b.status ≠ 204) : Heralds r b []

theorem numbered_inj {m n : Nat}
    (h : (numbered "id" m).render = (numbered "id" n).render) : m = n := by
  have hchars := String.ofList_injective h
  simp only [numbered, Json.Value.chars, Json.Value.memberChars, Json.separated,
    List.cons_append, List.append_assoc, List.cons.injEq, true_and, List.append_cancel_left_eq,
    List.append_cancel_right_eq] at hchars
  -- A number can be read back from its digits.
  have hread := congrArg (Nat.ofDigitChars 10 · 0) hchars
  simpa [Nat.toString_eq_ofList_toDigits] using hread

/-- The request and its answer leave no doubt about what is to be published. -/
theorem Heralds.unique {news' : List News} (h : Heralds r b news) (h' : Heralds r b news') :
    news = news' := by
  cases h with
  | created post answer =>
    subst answer
    cases h' with
    | created post' answer' =>
      have hrender := congrArg Response.body answer'
      rw [UInt64.toNat.inj (numbered_inj hrender)]
    | updated put => rw [post.1] at put; cases put
    | removed delete => rw [post.1] at delete; cases delete
    | nothing create => exact absurd rfl (create post)
  | updated put path names done =>
    cases h' with
    | created post => rw [post.1] at put; cases put
    | updated put' path' names' =>
      rw [path] at path'
      cases path'
      rw [names] at names'
      cases names'
      rfl
    | removed delete => rw [put] at delete; cases delete
    | nothing create change => exact absurd done (change (.inl put))
  | removed delete path names done =>
    cases h' with
    | created post => rw [post.1] at delete; cases delete
    | updated put => rw [put] at delete; cases delete
    | removed delete' path' names' =>
      rw [path] at path'
      cases path'
      rw [names] at names'
      cases names'
      rfl
    | nothing create change => exact absurd done (change (.inr delete))
  | nothing create change =>
    cases h' with
    | created post answer => exact absurd (by rw [answer]; rfl) (create post)
    | updated put _ _ done => exact absurd done (change (.inl put))
    | removed delete _ _ done => exact absurd done (change (.inr delete))
    | nothing => rfl

namespace Heralds

/-- Of a request that fails nothing is published. -/
theorem of_failed (failed : b.isSuccess = false) : Heralds r b [] := by
  refine .nothing ?_ ?_
  · intro _ hstatus
    rw [Response.isSuccess, hstatus] at failed
    cases failed
  · intro _ hstatus
    rw [Response.isSuccess, hstatus] at failed
    cases failed

/-- Of a request that is not for a single offer to be written nothing is published. -/
theorem of_other (create : ¬ Posts .offers r) (put : r.method ≠ .put) (delete : r.method ≠ .delete)
    (b : Response) : Heralds r b [] := by
  refine .nothing (fun post => absurd post create) ?_
  rintro (hput | hdelete)
  · exact absurd hput put
  · exact absurd hdelete delete

/-- An answer is sent with what is to be published of it. -/
theorem sent (h : Heralds r b news) : Heralds r (sent r b) news := by
  have hstatus := status_sent r b
  cases h with
  | created post answer =>
    refine .created post ?_
    rw [Api.sent, if_neg (by rw [post.1]; nofun), answer]
  | updated put path names done => exact .updated put path names (hstatus.trans done)
  | removed delete path names done => exact .removed delete path names (hstatus.trans done)
  | nothing create change =>
    refine .nothing ?_ ?_
    · rw [hstatus]
      exact create
    · rw [hstatus]
      exact change

end Heralds

/-- An error is not answered with success. -/
theorem Error.isSuccess_response (e : Error) : e.response.isSuccess = false := by
  rcases e with reason | cause | cause
  · rfl
  · cases cause <;> rfl
  · cases cause <;> rfl

/-! ## Jobs -/

/-- How far a job has come with what is to be published of its request: `news` is all that storage
    has changed so far, and of that `owed` is still to be sent. -/
inductive Brings (r : Request) : (news owed : List News) → Job → Prop
  | answer {a ns} (told : Heralds r a ns) : Brings r ns [] (.answer a)
  | create {o next} (post : Posts .offers r)
      (stored : ∀ id, Brings r [(.created, id)] [(.created, id)] (next (.ok id)))
      (failed : ∀ e, Brings r [] [] (next (.error e))) : Brings r [] [] (.create o next)
  | createAll {os next} (rest : ∀ x, Brings r [] [] (next x)) : Brings r [] [] (.createAll os next)
  | describe {id next} (rest : ∀ x, Brings r [] [] (next x)) : Brings r [] [] (.describe id next)
  | list {w next} (rest : ∀ x, Brings r [] [] (next x)) : Brings r [] [] (.list w next)
  | update {o next} (stored : Brings r [(.updated, o.id)] [(.updated, o.id)] (next (.ok ())))
      (failed : ∀ e, Brings r [] [] (next (.error e))) : Brings r [] [] (.update o next)
  | remove {id next} (stored : Brings r [(.removed, id)] [(.removed, id)] (next (.ok ())))
      (failed : ∀ e, Brings r [] [] (next (.error e))) : Brings r [] [] (.remove id next)
  | save {o next} (rest : ∀ v, Brings r [] [] (next v)) : Brings r [] [] (.save o next)
  | publish {kind id next} (rest : Brings r [(kind, id)] [] (next (.ok ()))) :
      Brings r [(kind, id)] [(kind, id)] (.publish kind id next)
  | count {ns os change next} (rest : Brings r ns os next) : Brings r ns os (.count change next)
  | log {ns os es next} (rest : Brings r ns os next) : Brings r ns os (.log es next)

namespace Brings

theorem refuse (e : Error) : Brings r [] [] (.refuse e) :=
  .log (.answer (.of_failed e.isSuccess_response))

theorem given {α : Type} {input : Except Violation α} {next : α → Job}
    (h : ∀ a, input = .ok a → Brings r [] [] (next a)) : Brings r [] [] (.given input next) :=
  Job.given_cases h fun _ => .refuse _

theorem stored_error {α : Type} {next : α → Job} (e : Storage.Error) :
    Brings r [] [] (.stored next (.error e)) := .refuse _

theorem stored {α : Type} {next : α → Job} (h : ∀ a, Brings r [] [] (next a))
    (x : Except Storage.Error α) : Brings r [] [] (.stored next x) := by
  rcases x with e | a
  · exact .stored_error e
  · exact h a

theorem saveEach (other : ∀ b, Heralds r b []) (total accepted : Nat) (os : List Offer) :
    Brings r [] [] (saveEach total accepted os) := by
  induction os generalizing accepted with
  | nil => exact .answer (other _)
  | cons o os ih =>
    refine .save fun v => ?_
    rcases v with e | ⟨⟩
    · exact .log (.refuse _)
    · exact ih (accepted + 1)

end Brings

/-- Who names an offer in order to change it names it as everybody does. -/
theorem offerId_of_offerChange {segment : String} {o : Offer}
    (h : offerChange segment r = .ok o) : offerId segment = .ok o.id := by
  obtain ⟨id, hid, h⟩ := exists_of_bind_eq_ok h
  obtain ⟨fields, -, h⟩ := exists_of_bind_eq_ok h
  obtain ⟨⟨⟩, hcheck, h⟩ := exists_of_bind_eq_ok h
  obtain ⟨⟨⟩, -, h⟩ := exists_of_bind_eq_ok h
  cases h
  unfold offerId
  rw [hid]
  show (checkId id >>= fun _ => Except.ok id) = _
  rw [hcheck]
  rfl

/-- Every job brings about what is to be published of its request, and sends it. -/
theorem brings_jobOf (r : Request) : Brings r [] [] (jobOf r) := by
  have hother {route : Route} (hne : route ≠ .offers) (post : Posts route r) (b : Response) :
      Heralds r b [] := by
    refine .of_other ?_ (by rw [post.1]; nofun) (by rw [post.1]; nofun) b
    intro post'
    exact hne (Option.some.inj (post.2.symm.trans post'.2))
  generalize hjob : jobOf r = job
  cases hjob ▸ asks_jobOf r with
  | unknown => exact .answer (.of_failed rfl)
  | unfit => exact .answer (.of_failed rfl)
  | create post =>
    refine .given fun fields _ => .create post (fun id => ?_) .stored_error
    exact .publish (.count (.log (.answer (.created post rfl))))
  | list read =>
    have hnothing := Heralds.of_other (fun post => read.1 post.1) read.2.1 read.2.2
    exact .given fun w _ => .list (.stored fun page => .answer (hnothing _))
  | batch post =>
    exact .given fun fs _ => .createAll (.stored fun n =>
      .count (.log (.answer (hother (by decide) post _))))
  | buffered post => exact .given fun fs _ => .saveEach (hother (by decide) post) _ _ _
  | describe read =>
    have hnothing := Heralds.of_other (fun post => read.1 post.1) read.2.1 read.2.2
    exact .given fun id _ => .describe (.stored fun o => .answer (hnothing _))
  | change put path =>
    refine .given fun o hchange => .update ?_ .stored_error
    exact .publish (.count (.answer (.updated put path (offerId_of_offerChange hchange) rfl)))
  | remove delete path =>
    refine .given fun id names => .remove ?_ .stored_error
    exact .publish (.count (.answer (.removed delete path names rfl)))

end OfferService.Api
