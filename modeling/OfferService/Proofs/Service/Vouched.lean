import OfferService.Proofs.Api.Vouched
import OfferService.Proofs.Saver.Origins
import OfferService.Proofs.Service.Balance
import OfferService.Proofs.Service.History
import OfferService.Proofs.Service.Seats
import OfferService.Proofs.Storage.LastWrite

/-
  OfferService.Proofs.Service.Vouched

  Whatever a service stores, some request has given. A handler keeps the request it was begun for, and
  does nothing that its request does not vouch for, whatever it is told; what the saver has was handed
  to it by handlers; and storage is asked by those two alone.
-/
namespace OfferService.Service

open OfferService.Api (Gives Hands Vouched)
open OfferService.Storage (Operation)

variable {s₀ s t : State} {c : Caller} {h h' : Handling} {a : Action} {m : Moved}
  {as : List Action} {es : List Event} {o : Offer}

/-! ## Handlers -/

theorem Asks.vouched {job : Api.Job} {α : Type} {q : Storage.Query α}
    {log : α → List Log.Entry} {next : Except Storage.Error α → Api.Job} {r : Http.Request}
    (asks : Asks job q log next) (vouched : Vouched r job) (x : Except Storage.Error α) :
    Vouched r (next x) := by
  cases asks with
  | create => cases vouched with | create _ rest => exact rest x
  | createAll => cases vouched with | createAll _ rest => exact rest x
  | describe => cases vouched with | describe rest => exact rest x
  | list => cases vouched with | list rest => exact rest x
  | update => cases vouched with | update _ rest => exact rest x
  | remove => cases vouched with | remove rest => exact rest x

/-- The handler does what its request vouches for. -/
def Handling.IsVouched (h : Handling) : Prop := Vouched h.request h.job

theorem Handling.IsVouched.hear (vouched : h.IsVouched) (c : Caller) (es : List Event) :
    (h.hear c es).IsVouched := by
  unfold IsVouched
  rw [request_hear]
  exact hear_keeps (Vouched.heeds h.request) vouched es

/-- A handler that makes a step is still the handler of its request, and vouched for. -/
theorem vouched_of_handle {fault : Option Storage.Error} (found : s.handling? c = some h)
    (vouched : h.IsVouched) (after : (handle s c h fault).1.handling? c = some h') :
    h'.request = h.request ∧ h'.IsVouched := by
  -- A step gives the handler its next job, or lets it wait; and who waits may be told at once.
  have hset {t : State} {job : Api.Job} (ht : t.handling? c = some h)
      (hjob : Vouched h.request job)
      (after : (t.setHandling c { h with job }).handling? c = some h') :
      h'.request = h.request ∧ h'.IsVouched := by
    rw [handling?_setHandling ht] at after
    cases after
    exact ⟨rfl, hjob⟩
  have hhear {t : State} {es : List Event}
      (ht : t.handling? c = ((s.setHandling c { h with isWaiting := true }).handling? c).map
        (·.hear c es))
      (after : t.handling? c = some h') : h'.request = h.request ∧ h'.IsVouched := by
    have hwaiting : ({ h with isWaiting := true } : Handling).IsVouched := vouched
    rw [ht, handling?_setHandling found] at after
    cases after
    exact ⟨Handling.request_hear c _ es, hwaiting.hear c es⟩
  have hnow : Vouched h.request h.job := vouched
  generalize hm : handle s c h fault = m at after
  cases handle_cases hm with
  | answer =>
    rw [handling?_endHandling] at after
    cases after
  | @stored _ q log next x u asks =>
    exact hset (t := { s with store := u }) found (asks.vouched hnow _) after
  | @failed _ q log next e u asks =>
    exact hset (t := { s with store := u }) found (asks.vouched hnow _) after
  | save => exact hhear (handling?_afterSaver _ c _) after
  | publish => exact hhear (handling?_afterPublisher _ c _) after
  | @count change next job =>
    rw [job] at hnow
    cases hnow with
    | count rest => exact hset (t := { s with metrics := change s.metrics }) found rest after
  | @log es next job =>
    rw [job] at hnow
    cases hnow with
    | log rest => exact hset found rest after

/-- Every handler in a run is that of a request that has arrived, and vouched for. -/
theorem vouched_of_path (nobody : s₀.handlings = []) (hpath : Path step s₀ as es s)
    (found : s.handling? c = some h) : h.request ∈ receipts es ∧ h.IsVouched := by
  induction hpath generalizing h with
  | refl =>
    rw [State.handling?, nobody] at found
    cases found
  | @tail as es t a u new hpath hstep ih =>
    have hmove := move_cases hstep
    rw [receipts_append]
    -- The handler has just been begun, or there was one for its request before.
    cases before : t.handling? c with
    | none =>
      by_cases hreceive : ∃ r, a = .receive c r
      · obtain ⟨r, rfl⟩ := hreceive
        generalize hm : (u, new) = m at hmove
        cases hmove with
        | receive =>
          cases hm
          cases found.symm.trans (handling?_receive before r)
          exact ⟨List.mem_append_right _ List.mem_cons_self, Api.vouched_jobOf r⟩
      · rw [hmove.handling?_eq_none before fun r ha => hreceive ⟨r, ha⟩] at found
        cases found
    | some old =>
      obtain ⟨hrequest, hvouched⟩ := ih before
      have hkept : h.request = old.request ∧ h.IsVouched := by
        by_cases hown : ∃ fault, a = .handle c fault
        · obtain ⟨fault, rfl⟩ := hown
          generalize hm : (u, new) = m at hmove
          cases hmove with
          | handle found' =>
            rw [before] at found'
            cases found'
            have hu : u = (handle t c old fault).1 := congrArg Prod.fst hm
            rw [hu] at found
            exact vouched_of_handle before hvouched found
        · rw [hmove.handling?_eq before fun fault ha => hown ⟨fault, ha⟩] at found
          cases found
          exact ⟨Handling.request_hear c old _, hvouched.hear c _⟩
      rw [hkept.1]
      exact ⟨List.mem_append_left _ hrequest, hkept.2⟩

/-! ## The saver -/

/-- Requests that have arrived have given this offer to the saver. -/
def Entrusted (es : List Event) (o : Offer) : Prop := ∃ r ∈ receipts es, Hands r o

/-- Requests that have arrived have given this offer to be written. -/
def Given (es : List Event) (o : Offer) : Prop := ∃ r ∈ receipts es, Gives r o

theorem Entrusted.given (h : Entrusted es o) : Given es o := by
  obtain ⟨r, hr, hands⟩ := h
  exact ⟨r, hr, .buffered hands⟩

theorem Given.append {old : List Event} (h : Given old o) (later : List Event) :
    Given (old ++ later) o := by
  obtain ⟨r, hr, gives⟩ := h
  rw [Given, receipts_append]
  exact ⟨r, List.mem_append_left _ hr, gives⟩

/-- What handlers hand to the saver was given to it. -/
theorem entrusted_of_begun (nobody : s₀.handlings = []) (hpath : Path step s₀ as es s)
    (h : (c, o) ∈ gathered step begun s₀ as) : Entrusted es o := by
  obtain ⟨before, u, a, v, old, new, later, hbefore, -, hbegun, rfl⟩ := hpath.of_mem_gathered h
  -- Only a handler begins a call, and hands over the offer of its job.
  cases a with
  | handle k fault =>
    obtain ⟨p, hfirst, hp⟩ := Option.map_eq_some_iff.mp (Option.mem_toList.mp hbegun)
    cases hp
    obtain ⟨h, found, hjob⟩ := Option.bind_eq_some_iff.mp hfirst
    obtain ⟨hrequest, hvouched⟩ := vouched_of_path nobody hbefore found
    have hnow : Vouched h.request h.job := hvouched
    cases job : h.job with
    | save o next =>
      rw [job] at hnow hjob
      cases hjob
      cases hnow with
      | save handed =>
        refine ⟨h.request, ?_, handed⟩
        rw [receipts_append, receipts_append]
        exact List.mem_append_left _ (List.mem_append_left _ hrequest)
    | _ =>
      rw [job] at hjob
      cases hjob
  | _ => cases hbegun

/-- All offers that the saver of a service has were given to it. -/
theorem Fresh.entrusted (fresh : Fresh s₀) (hpath : Path step s₀ as es s)
    (h : o ∈ s.saver.loop.unstored ++ s.saver.buffer) : Entrusted es o := by
  obtain ⟨capacity, groups, ticker, built, before, said, hnew, hbefore, unused⟩ := fresh.saver
  obtain ⟨bs, hlater, hsaves⟩ := exists_saver_saves hpath
  obtain ⟨c, hc⟩ := Saver.mem_saves_of_path (hbefore.trans hlater) hnew h
  rw [Saver.saves_append, unused, List.nil_append, hsaves] at hc
  exact entrusted_of_begun fresh.handlings hpath hc

/-! ## Storage -/

/-- What storage is asked for is a call, and is to write only offers that were given. -/
def IsGiven (es : List Event) (op : Operation) : Prop :=
  op.isCall = true ∧ ∀ o ∈ op.offers, Given es o

theorem isGiven_createAll {os : List Offer} {op : Operation} (hop : op ∈ [.createAll os])
    (given : ∀ o ∈ os, Given es o) : IsGiven es op := by
  cases List.mem_singleton.mp hop
  exact ⟨rfl, given⟩

/-- A handler that is vouched for asks storage for nothing else. -/
theorem Handling.IsVouched.isGiven {op : Operation} (vouched : h.IsVouched)
    (arrived : h.request ∈ receipts es) (hop : op ∈ asked h.job) : IsGiven es op := by
  have hgiven {o : Offer} (gives : Gives h.request o) : Given es o := ⟨h.request, arrived, gives⟩
  unfold IsVouched at vouched
  cases job : h.job with
  | create o next =>
    rw [job] at vouched hop
    cases vouched with
    | create given =>
      cases List.mem_singleton.mp hop
      exact ⟨rfl, List.forall_mem_singleton.mpr (hgiven given)⟩
  | createAll os next =>
    rw [job] at vouched hop
    cases vouched with
    | createAll given => exact isGiven_createAll hop fun o ho => hgiven (given o ho)
  | update o next =>
    rw [job] at vouched hop
    cases vouched with
    | update given =>
      cases List.mem_singleton.mp hop
      exact ⟨rfl, List.forall_mem_singleton.mpr (hgiven given)⟩
  | describe | list | remove =>
    rw [job] at hop
    cases List.mem_singleton.mp hop
    exact ⟨rfl, nofun⟩
  | _ =>
    rw [job] at hop
    cases hop

/-- All that a service asks of storage is to write what requests have given, or to write nothing. -/
theorem Fresh.isGiven (fresh : Fresh s₀) (hpath : Path step s₀ as es s) {op : Operation}
    (hop : op ∈ history s₀ as) : IsGiven es op := by
  obtain ⟨before, u, a, v, old, new, later, hbefore, -, hcall, rfl⟩ := hpath.of_mem_gathered hop
  -- What storage is asked for now was given by requests that have arrived before.
  have hold : IsGiven old op := by
    cases a with
    | handle c fault =>
      simp only [calls] at hcall
      have hcall := mem_of_mem_unfailed hcall
      cases found : u.handling? c with
      | none =>
        rw [found] at hcall
        cases hcall
      | some h =>
        rw [found] at hcall
        obtain ⟨harrived, hvouched⟩ := vouched_of_path fresh.handlings hbefore found
        exact hvouched.isGiven harrived hcall
    | storeBatch fault =>
      simp only [calls] at hcall
      split at hcall
      · rename_i why f after busy
        refine isGiven_createAll (mem_of_mem_unfailed hcall) fun o ho =>
          (fresh.entrusted hbefore ?_).given
        rw [busy]
        exact List.mem_append_left _ (List.mem_append_left _ ho)
      · cases hcall
    | _ => cases hcall
  refine ⟨hold.1, fun o ho => ?_⟩
  rw [List.append_assoc]
  exact (hold.2 o ho).append _

end OfferService.Service
