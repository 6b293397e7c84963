import OfferService.Proofs.Lookup
import OfferService.Proofs.Saver.Desk

/-
  OfferService.Proofs.Saver.Accounts

  Where the offers are. A caller here is one call: no caller begins two. Then each offer that was
  handed over is in one place: it was pushed, it was refused, it is in the mailbox, it is still with
  its caller, or it is gone for good. `Desk.Accounts` says so, and that whoever is turned away finds
  its offer among those that are gone. What the other verdicts tell is `Told`.
-/
namespace OfferService.Saver

/-- No caller begins two calls to save. -/
def Distinct (as : List Action) : Prop := ((saves as).map (·.1)).Nodup

/-! ## What a verdict of the event loop tells -/

/-- The verdict tells what the event loop did with the offer of the caller. -/
def Told (es : List Event) (c : Caller) (v : Verdict) : Prop :=
  v = .ok () ∧ c ∈ (pushes es).map (·.1) ∨
    ∃ n, v = .error (.capacityReached n) ∧ c ∈ (refusals es).map (·.1)

theorem Told.append {es : List Event} {c : Caller} {v : Verdict} (h : Told es c v)
    (fs : List Event) : Told (es ++ fs) c v := by
  unfold Told
  rw [pushes_append, refusals_append, List.map_append, List.map_append]
  rcases h with ⟨hv, hc⟩ | ⟨n, hv, hc⟩
  · exact Or.inl ⟨hv, List.mem_append_left _ hc⟩
  · exact Or.inr ⟨n, hv, List.mem_append_left _ hc⟩

namespace Desk

variable {d d' : Desk} {es new : List Event} {calls begun : List (Caller × Offer)}

/-- A verdict on its way is one of the event loop, and so is a verdict that a caller has got, unless
    its caller was turned away. -/
structure Truthful (es : List Event) (d : Desk) : Prop where
  onTheWay : ∀ p ∈ d.verdicts, Told es p.1 p.2
  returned : ∀ c v, .returned c v ∈ es → Told es c v ∨ ∃ e, v = .error e ∧ TurnsAway e

theorem mem_reply_verdicts {c : Caller} {v : Verdict} {p : Caller × Verdict}
    (h : p ∈ (d.reply c v).verdicts) : p ∈ d.verdicts ∨ p = (c, v) := by
  unfold reply at h
  split at h
  · rcases List.mem_append.mp h with h | h
    · exact Or.inl h
    · exact Or.inr (List.mem_singleton.mp h)
  · exact Or.inl h

/-- A call returns when its caller is turned away, or with the verdict on its way. -/
theorem Step.of_returned {c : Caller} {v : Verdict} (h : Desk.Step d begun new d')
    (hmem : .returned c v ∈ new) :
    (∃ e, v = .error e ∧ TurnsAway e) ∨ d.verdicts.lookup c = some v := by
  cases h with
  | rest aside => exact absurd (aside _ hmem) nofun
  | shut aside => exact absurd (aside _ hmem) nofun
  | wake aside => exact absurd (aside _ hmem) nofun
  | drain => cases hmem
  | exit aside => exact absurd (aside _ hmem) nofun
  | push aside =>
    rcases List.mem_cons.mp hmem with he | he
    · cases he
    · exact absurd (aside _ he) nofun
  | refuse => cases List.mem_singleton.mp hmem
  | turnAway why =>
    cases List.mem_singleton.mp hmem
    exact Or.inl ⟨_, rfl, why⟩
  | enter => cases hmem
  | queue => cases hmem
  | letIn => cases hmem
  | withdraw found gone =>
    cases List.mem_singleton.mp hmem
    rcases gone with he | he <;> cases he
    exact Or.inl ⟨_, rfl, Or.inl rfl⟩
  | collect found gone =>
    cases List.mem_singleton.mp hmem
    rcases gone with he | he <;> cases he
    exact Or.inr found
  | forsake waits gone =>
    cases List.mem_singleton.mp hmem
    rcases gone with he | ⟨he, -⟩ <;> cases he
    exact Or.inl ⟨_, rfl, Or.inl rfl⟩

/-- Verdicts that are new are told; the others were. -/
theorem Truthful.step (ht : Truthful es d) (h : Desk.Step d begun new d') :
    Truthful (es ++ new) d' := by
  refine ⟨?_, ?_⟩
  · intro p hp
    cases h with
    | @push c o rest es' aside alive first =>
      rcases mem_reply_verdicts hp with hold | rfl
      · exact (ht.onTheWay p hold).append _
      · refine Or.inl ⟨rfl, ?_⟩
        rw [pushes_append, List.map_append]
        exact List.mem_append_right _ List.mem_cons_self
    | @refuse c o rest n alive first =>
      rcases mem_reply_verdicts hp with hold | rfl
      · exact (ht.onTheWay p hold).append _
      · refine Or.inr ⟨n, rfl, ?_⟩
        rw [refusals_append, List.map_append]
        exact List.mem_append_right _ List.mem_cons_self
    | collect => exact (ht.onTheWay p (List.mem_filter.mp hp).1).append _
    | _ => exact (ht.onTheWay p hp).append _
  · intro c v hmem
    rcases List.mem_append.mp hmem with hold | hnow
    · rcases ht.returned c v hold with htold | haway
      · exact Or.inl (htold.append _)
      · exact Or.inr haway
    · rcases h.of_returned hnow with haway | found
      · exact Or.inr haway
      · exact Or.inl ((ht.onTheWay (c, v) (mem_of_lookup found)).append _)

/-! ## Where an offer is -/

/-- A verdict of the event loop turns nobody away. -/
theorem not_told_of_turnsAway {c : Caller} {e : SaverError} (he : TurnsAway e) :
    ¬ Told es c (.error e) := by
  rintro (⟨h, -⟩ | ⟨n, h, -⟩)
  · cases h
  · cases Except.error.inj h
    rcases he with he | he <;> cases he

/-- What an action does with the offers that wait and with the one that is handed over: it may push
    or refuse one, and others are `gone` with their callers. -/
structure Moves (d : Desk) (begun : List (Caller × Offer)) (new : List Event) (d' : Desk)
    (gone : List (Caller × Offer)) : Prop where
  perm : (d.items ++ d.pending ++ begun).Perm
    (pushes new ++ refusals new ++ d'.items ++ d'.pending ++ gone)
  turnedAway : ∀ c e, TurnsAway e → .returned c (.error e) ∈ new → c ∈ gone.map (·.1)

/-- Nothing about requests happens. -/
theorem Moves.of_aside (aside : Aside new) (hitems : d'.items = d.items)
    (hpending : d'.pending = d.pending) : Moves d [] new d' [] := by
  refine ⟨?_, fun c e _ hmem => absurd (aside _ hmem) nofun⟩
  rw [aside.pushes_eq_nil, aside.refusals_eq_nil, hitems, hpending]
  exact .refl _

/-- Offers change places, and nothing happens. -/
theorem Moves.of_perm (perm : (d.items ++ d.pending ++ begun).Perm (d'.items ++ d'.pending)) :
    Moves d begun [] d' [] := by
  refine ⟨?_, ?_⟩
  · rw [List.append_nil]
    exact perm
  · intro c e _ hmem
    cases hmem

/-- A call is over, whose offer was elsewhere before. -/
theorem Moves.of_gone {c : Caller} {v : Verdict} {e : Event}
    (gone : e = .returned c v ∨ e = .abandoned c) (hv : ∀ e', v = .error e' → ¬ TurnsAway e')
    (hitems : d'.items = d.items) (hpending : d'.pending = d.pending) : Moves d [] [e] d' [] := by
  have hquiet : Quiet [e] := by rcases gone with rfl | rfl <;> simp [Quiet, Event.isQuiet]
  refine ⟨?_, ?_⟩
  · rw [hquiet.pushes_eq_nil, hquiet.refusals_eq_nil, hitems, hpending]
    exact .refl _
  · intro k e' haway hmem
    rcases gone with rfl | rfl
    · cases List.mem_singleton.mp hmem
      exact absurd haway (hv e' rfl)
    · cases List.mem_singleton.mp hmem

theorem Step.exists_moves (h : Desk.Step d begun new d') (hd : d.Sound) (ht : Truthful es d)
    (hn : (d.pending.map (·.1)).Nodup) : ∃ gone, Moves d begun new d' gone := by
  cases h with
  | rest aside => exact ⟨[], .of_aside aside rfl rfl⟩
  | shut aside => exact ⟨[], .of_aside aside rfl rfl⟩
  | wake aside => exact ⟨[], .of_aside aside rfl rfl⟩
  | drain => exact ⟨[], .of_aside aside_nil rfl rfl⟩
  | exit aside => exact ⟨[], .of_aside aside rfl rfl⟩
  | @push c o rest es' aside alive first =>
    refine ⟨[], ?_, ?_⟩
    · have hpushes : pushes (.pushed c o :: es') = (c, o) :: pushes es' := rfl
      have hrefusals : refusals (.pushed c o :: es') = refusals es' := rfl
      rw [hpushes, hrefusals, aside.pushes_eq_nil, aside.refusals_eq_nil, reply_items,
        reply_pending, first]
      exact .refl _
    · intro k e _ hmem
      rcases List.mem_cons.mp hmem with he | he
      · cases he
      · exact absurd (aside _ he) nofun
  | @refuse c o rest n alive first =>
    refine ⟨[], ?_, ?_⟩
    · rw [reply_items, reply_pending, first]
      exact .refl _
    · intro k e _ hmem
      cases List.mem_singleton.mp hmem
  | @turnAway c o e why =>
    refine ⟨[(c, o)], .refl _, ?_⟩
    intro k e' _ hmem
    cases List.mem_singleton.mp hmem
    exact List.mem_cons_self
  | @enter c o unlocked =>
    refine ⟨[], .of_perm ?_⟩
    simp only [handOver, List.append_assoc]
    exact List.perm_append_comm.append_left _
  | queue =>
    refine ⟨[], .of_perm ?_⟩
    rw [List.append_assoc]
  | @letIn c o found unlocked =>
    refine ⟨[], .of_perm ?_⟩
    simp only [handOver, leave, List.append_nil, List.append_assoc]
    exact (perm_of_lookup hn found).append_left _
  | @withdraw c o e found gone =>
    have hquiet : Quiet [e] := by rcases gone with rfl | rfl <;> simp [Quiet, Event.isQuiet]
    refine ⟨[(c, o)], ?_, ?_⟩
    · rw [hquiet.pushes_eq_nil, hquiet.refusals_eq_nil]
      simp only [List.nil_append, List.append_nil, leave, List.append_assoc]
      exact ((perm_of_lookup hn found).trans (List.perm_append_singleton _ _).symm).append_left _
    · intro k e' _ hmem
      rcases gone with rfl | rfl
      · cases List.mem_singleton.mp hmem
        exact List.mem_cons_self
      · cases List.mem_singleton.mp hmem
  | @collect c v e found gone =>
    -- The verdict on its way is one of the event loop, so it turns nobody away.
    have htold : Told es c v := ht.onTheWay (c, v) (mem_of_lookup found)
    refine ⟨[], .of_gone gone ?_ rfl rfl⟩
    intro e' hv haway
    rw [hv] at htold
    exact not_told_of_turnsAway haway htold
  | @forsake c e waits gone =>
    rcases gone with gone | ⟨-, exited⟩
    · have hv : ∀ e', (.ok () : Verdict) = .error e' → ¬ TurnsAway e' := by
        intro e' hv
        cases hv
      exact ⟨[], .of_gone (Or.inr gone) hv rfl rfl⟩
    · -- Nobody waits for a verdict once the event loop has exited.
      rw [hd.awaiting_eq_nil exited] at waits
      cases waits

/-- Each offer that was handed over is in one place: pushed, refused, in the mailbox, with its
    caller, or gone, as is the offer of every caller who was turned away. -/
structure Accounts (calls : List (Caller × Offer)) (es : List Event) (d : Desk)
    (gone : List (Caller × Offer)) : Prop where
  perm : (pushes es ++ refusals es ++ d.items ++ d.pending ++ gone).Perm calls
  turnedAway : ∀ c e, TurnsAway e → .returned c (.error e) ∈ es → c ∈ gone.map (·.1)

/-- Callers who wait for a place are told apart if all callers are. -/
theorem Accounts.pending_nodup {gone : List (Caller × Offer)} (ha : Accounts calls es d gone)
    (hn : (calls.map (·.1)).Nodup) : (d.pending.map (·.1)).Nodup := by
  have hall := (ha.perm.map (·.1)).nodup_iff.mpr hn
  have hsub : d.pending.Sublist (pushes es ++ refusals es ++ d.items ++ d.pending ++ gone) :=
    (List.sublist_append_right _ _).trans (List.sublist_append_left _ _)
  exact (hsub.map _).nodup hall

/-- An offer that was pushed is one that was handed over. -/
theorem Accounts.mem_calls {gone : List (Caller × Offer)} {p : Caller × Offer}
    (ha : Accounts calls es d gone) (hp : p ∈ pushes es) : p ∈ calls := by
  apply ha.perm.mem_iff.mp
  rw [List.append_assoc, List.append_assoc, List.append_assoc]
  exact List.mem_append_left _ hp

theorem Accounts.step {gone : List (Caller × Offer)} (ha : Accounts calls es d gone)
    (hn : (calls.map (·.1)).Nodup) (hd : d.Sound) (ht : Truthful es d)
    (h : Desk.Step d begun new d') :
    ∃ gone', Accounts (calls ++ begun) (es ++ new) d' gone' := by
  obtain ⟨left, hmoves⟩ := h.exists_moves hd ht (ha.pending_nodup hn)
  refine ⟨gone ++ left, ?_, ?_⟩
  · -- An offer is in as many places as before, now that some have moved.
    apply List.perm_iff_count.mpr
    intro p
    have hbefore := ha.perm.count_eq p
    have hnow := hmoves.perm.count_eq p
    simp only [pushes_append, refusals_append, List.count_append] at hbefore hnow ⊢
    omega
  · intro c e he hmem
    rw [List.map_append]
    rcases List.mem_append.mp hmem with hold | hnow
    · exact List.mem_append_left _ (ha.turnedAway c e he hold)
    · exact List.mem_append_right _ (hmoves.turnedAway c e he hnow)

end Desk

/-! ## Whole runs -/

section

variable {capacity groups : Nat} {ticker : Ticker} {s₀ s : State} {as : List Action}
  {es : List Event}

theorem truthful_of_path (h : Path step s₀ as es s) (hnew : new capacity groups ticker = .ok s₀) :
    s.desk.Truthful es := by
  refine desk_induction h (P := fun _ es d => d.Truthful es) hnew ⟨nofun, nofun⟩ ?_
  intro calls es d begun new d' _ ht hstep
  exact ht.step hstep

/-- Where the offers are in a run in which callers are told apart. -/
theorem accounts_of_path (h : Path step s₀ as es s) (hnew : new capacity groups ticker = .ok s₀)
    (distinct : Distinct as) : ∃ gone, s.desk.Accounts (saves as) es gone := by
  have hboth : s.desk.Truthful es ∧
      (((saves as).map (·.1)).Nodup → ∃ gone, s.desk.Accounts (saves as) es gone) := by
    refine desk_induction h (P := fun calls es d => d.Truthful es ∧
      ((calls.map (·.1)).Nodup → ∃ gone, d.Accounts calls es gone)) hnew ?_ ?_
    · exact ⟨⟨nofun, nofun⟩, fun _ => ⟨[], .refl _, nofun⟩⟩
    · rintro calls es d begun new d' hd ⟨ht, ih⟩ hstep
      refine ⟨ht.step hstep, ?_⟩
      intro hn
      rw [List.map_append] at hn
      have hcalls : (calls.map (·.1)).Nodup := (List.nodup_append.mp hn).1
      obtain ⟨gone, ha⟩ := ih hcalls
      exact ha.step hcalls hd ht hstep
  exact hboth.2 distinct

end

end OfferService.Saver
