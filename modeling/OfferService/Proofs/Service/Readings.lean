import OfferService.Proofs.Api.News
import OfferService.Proofs.Service.Refusals

/-
  OfferService.Proofs.Service.Readings

  Requests to show an offer. The handler of one asks storage once, between the arrival of the request
  and its answer, and what it answers with success is what storage has said then. `Reading` lists the
  places where such a handler can stand.
-/
namespace OfferService.Service

open OfferService.Api (Route offerId)
open OfferService.Http (Request Response)
open OfferService.Storage (Store)

variable {s s₁ t u : State} {c : Caller} {r : Request} {b : Response} {segment : String}
  {a : Action} {as : List Action} {es new new₁ : List Event} {job : Api.Job}

/-- The answer that shows an offer. -/
def showing (o : Offer) : Response := .json 200 (.object [("offer", Api.offerView o)])

/-- What a handler does that asks storage for an offer in order to show it. -/
def looking (id : UInt64) : Api.Job := .describe id (.stored fun o => .answer (showing o))

/-! ## Where the handler stands -/

/-- The handler of the caller is about to do this for the request. -/
def IsAt (c : Caller) (r : Request) (job : Api.Job) (s : State) : Prop :=
  s.handling? c = some { request := r, job }

/-- Where the handler of a request to show an offer stands, after these actions since the request has
    arrived in a state: it has not asked storage yet, it has and was told of the offer, or it
    refuses. -/
inductive Reading (c : Caller) (r : Request) (segment : String) (s : State) (as : List Action)
    (t : State) : Prop
  | asking {id} (named : offerId segment = .ok id) (at_ : IsAt c r (looking id) t)
  | told {id o before later es u} (named : offerId segment = .ok id)
      (at_ : IsAt c r (.answer (showing o)) t) (cut : as = before ++ later)
      (hither : Path step s before es u) (said : ((Store.describe id).on u.store).1 = .ok o)
  | refusing {e} (at_ : IsAt c r (.refuse e) t)
  | refused {e : Api.Error} (at_ : IsAt c r (.answer e.response) t)

/-- A handler that does not wait stays where it is when others move. -/
theorem IsAt.others (h : IsAt c r job t) (hstep : step t a = some (u, new))
    (others : ∀ fault, a ≠ .handle c fault) : IsAt c r job u :=
  (move_cases hstep).handling?_of_free h rfl others

/-- A handler makes its step. -/
theorem IsAt.handle {fault : Option Storage.Error} (h : IsAt c r job t)
    (hstep : step t (.handle c fault) = some (u, new)) :
    (u, new) = Service.handle t c { request := r, job } fault := by
  generalize hm : (u, new) = m at hstep
  cases move_cases hstep with
  | handle found =>
    cases h.symm.trans found
    rfl

/-- A request to show an offer begins with a question to storage, or is refused. -/
theorem reading_of_receive (get : r.method = .get)
    (path : Route.ofPath r.target.path = some (.offer segment))
    (arrive : step s (.receive c r) = some (s₁, new₁)) : Reading c r segment s₁ [] s₁ := by
  have hat : IsAt c r (Api.jobOf r) s₁ := by
    generalize hm : (s₁, new₁) = m at arrive
    cases move_cases arrive with
    | receive fresh =>
      cases hm
      exact handling?_receive fresh r
  have hjob : Api.jobOf r = Api.describe segment := by
    unfold Api.jobOf
    rw [path]
    simp only [Route.job, get, Option.getD_some]
  rw [hjob, Api.describe] at hat
  cases named : offerId segment with
  | ok id =>
    rw [named] at hat
    exact .asking named hat
  | error v =>
    rw [named] at hat
    exact .refusing hat

/-- Storage is asked in the state in which the handler makes its step. -/
theorem Reading.step (h : Reading c r segment s as t) (hpath : Path step s as es t)
    (hstep : step t a = some (u, new)) (unanswered : ∀ r b, .answered c r b ∉ new) :
    Reading c r segment s (as ++ [a]) u := by
  by_cases hown : ∃ fault, a = .handle c fault
  · obtain ⟨fault, rfl⟩ := hown
    have hanswer {x : Response} (at_ : IsAt c r (.answer x) t) : False := by
      have hnew : new = [.answered c r (Api.sent r x)] := congrArg Prod.snd (at_.handle hstep)
      exact unanswered r _ (by rw [hnew]; exact List.mem_cons_self)
    cases h with
    | @asking id named at_ =>
      -- Storage answers now, so the state that the offer is from is this one.
      have hmoved := congrArg Prod.fst (at_.handle hstep)
      rcases hon : (withFault fault (Store.describe id)).on t.store with ⟨x, v⟩
      have hnext : IsAt c r (.stored (fun o => .answer (showing o)) x) u := by
        unfold IsAt
        rw [show u = _ from hmoved, ← show _ = x from congrArg Prod.fst hon]
        exact handling?_setHandling
          (s := { t with store := ((withFault fault (Store.describe id)).on t.store).2 }) at_ _
      cases x with
      | ok o => exact .told named hnext rfl hpath (congrArg Prod.fst (withFault_eq_ok hon).2)
      | error e => exact .refusing hnext
    | told _ at_ => exact (hanswer at_).elim
    | @refusing e at_ =>
      have hmoved := congrArg Prod.fst (at_.handle hstep)
      have hnext : IsAt c r (.answer e.response) u := by
        unfold IsAt
        rw [show u = _ from hmoved]
        exact handling?_setHandling at_ _
      exact .refused hnext
    | refused at_ => exact (hanswer at_).elim
  · have hothers : ∀ fault, a ≠ .handle c fault := fun fault ha => hown ⟨fault, ha⟩
    cases h with
    | asking named at_ => exact .asking named (at_.others hstep hothers)
    | @told id o before later _ _ named at_ cut hither said =>
      have hcut : as ++ [a] = before ++ (later ++ [a]) := by rw [cut, List.append_assoc]
      exact .told named (at_.others hstep hothers) hcut hither said
    | refusing at_ => exact .refusing (at_.others hstep hothers)
    | refused at_ => exact .refused (at_.others hstep hothers)

/-- While the request is not answered, its handler stands in one of these places. -/
theorem reading_of_path (hreading : Reading c r segment s [] s) (hpath : Path step s as es t)
    (unanswered : ∀ r b, .answered c r b ∉ es) : Reading c r segment s as t := by
  induction hpath with
  | refl => exact hreading
  | tail hpath hstep ih =>
    exact (ih fun r b hmem => unanswered r b (List.mem_append_left _ hmem)).step hpath hstep
      fun r b hmem => unanswered r b (List.mem_append_right _ hmem)

/-- An offer that is shown is what storage has said of its id between the arrival of the request and
    its answer. -/
theorem exists_said (get : r.method = .get)
    (path : Route.ofPath r.target.path = some (.offer segment))
    (arrive : step s (.receive c r) = some (s₁, new₁)) (hpath : Path step s₁ as es t)
    (unanswered : ∀ r b, .answered c r b ∉ es) (hend : step t a = some (u, new))
    (hanswer : .answered c r b ∈ new) (ok : b.status = 200) :
    ∃ id o before later old v, offerId segment = .ok id ∧ as = before ++ later ∧
      Path step s₁ before old v ∧ ((Store.describe id).on v.store).1 = .ok o ∧ b = showing o := by
  obtain ⟨h, fault, x, rfl, found, -, job, hsent, -⟩ := (move_cases hend).of_answered hanswer
  have hat {y : Api.Job} (at_ : IsAt c r y t) : y = .answer x := by
    cases at_.symm.trans found
    exact job
  have hx : b = x := by
    rw [hsent, Api.sent, get, if_neg (by decide)]
  cases reading_of_path (reading_of_receive get path arrive) hpath unanswered with
  | asking named at_ => cases hat at_
  | @told id o before later old v named at_ cut hither said =>
    cases hat at_
    exact ⟨id, o, before, later, old, v, named, cut, hither, said, hx⟩
  | refusing at_ => cases hat at_
  | @refused e at_ =>
    -- No error is answered with this status.
    cases hat at_
    have hfailed := e.isSuccess_response
    rw [← hx, Response.isSuccess, ok] at hfailed
    cases hfailed

end OfferService.Service
