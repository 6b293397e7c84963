import OfferService.Proofs.Saver.Accounts

/-
  OfferService.Proofs.Saver.Visit

  The desk of a saver as one caller sees it: its own offers in line and in the mailbox, how often it
  waits for a verdict, and its verdicts on their way. What others do at the desk changes none of
  that. A caller who makes one call to save after another, each when the one before has returned,
  has at most one offer there; `Visit` says where, from the call to the verdict.
-/
namespace OfferService.Saver

/-! ## Calls that return -/

/-- The call that returned, by its caller, and its verdict. -/
def Event.verdict : Event → List (Caller × Verdict)
  | .returned c v => [(c, v)]
  | _ => []

/-- The verdicts with which calls have returned, in that order, each with its caller. -/
def verdicts (es : List Event) : List (Caller × Verdict) := es.flatMap Event.verdict

@[simp] theorem verdicts_append (es fs : List Event) :
    verdicts (es ++ fs) = verdicts es ++ verdicts fs := List.flatMap_append

theorem entries_verdicts_returned (c : Caller) (v : Verdict) :
    entries c (verdicts [.returned c v]) = [v] := entries_cons_self c v []

theorem Aside.verdicts_eq_nil {es : List Event} (h : Aside es) : verdicts es = [] :=
  flatMap_eq_nil_of_forall h fun e he => by cases e <;> first | rfl | cases he

/-! ## What a caller has at the desk -/

/-- What a caller has at the desk. -/
structure Slot where
  pending : List Offer
  items : List Offer
  /-- For how many verdicts it waits. -/
  awaiting : Nat
  verdicts : List Verdict

namespace Slot

/-- The caller has nothing there. -/
def empty : Slot := ⟨[], [], 0, []⟩

def handOver (s : Slot) (o : Offer) : Slot :=
  { s with items := s.items ++ [o], awaiting := s.awaiting + 1 }

def reply (s : Slot) (v : Verdict) : Slot :=
  if 0 < s.awaiting then
    { s with awaiting := s.awaiting - 1, verdicts := s.verdicts ++ [v] }
  else s

end Slot

/-- What the caller has at the desk. -/
def Desk.slot (d : Desk) (c : Caller) : Slot :=
  ⟨entries c d.pending, entries c d.items, d.awaiting.count c, entries c d.verdicts⟩

/-- What an action can do to what a caller has at the desk: the offers that it begins to save, those
    of it that are pushed, and the verdicts it gets. -/
inductive Slot.Step (s : Slot) : List Offer → List Offer → List Verdict → Slot → Prop
  | rest : Slot.Step s [] [] [] s
  | push {o rest} (first : s.items = o :: rest) :
      Slot.Step s [] [o] [] ({ s with items := rest }.reply (.ok ()))
  | refuse {o rest n} (first : s.items = o :: rest) :
      Slot.Step s [] [] [] ({ s with items := rest }.reply (.error (.capacityReached n)))
  | turnAway {o e} (why : TurnsAway e) : Slot.Step s [o] [] [.error e] s
  | enter {o} : Slot.Step s [o] [] [] (s.handOver o)
  | queue {o} : Slot.Step s [o] [] [] { s with pending := s.pending ++ [o] }
  | letIn {o rest} (first : s.pending = o :: rest) :
      Slot.Step s [] [] [] ({ s with pending := [] }.handOver o)
  | withdraw {o rest told} (first : s.pending = o :: rest)
      (gone : told = [.error .closed] ∨ told = []) :
      Slot.Step s [] [] told { s with pending := [] }
  | collect {v rest told} (first : s.verdicts = v :: rest) (gone : told = [v] ∨ told = []) :
      Slot.Step s [] [] told { s with verdicts := [] }
  | forsake (waits : 0 < s.awaiting) :
      Slot.Step s [] [] [] { s with awaiting := s.awaiting - 1 }

theorem Desk.slot_handOver_self (d : Desk) (c : Caller) (o : Offer) :
    (d.handOver c o).slot c = (d.slot c).handOver o := by
  simp [Desk.slot, Desk.handOver, Slot.handOver]

theorem Desk.slot_handOver_of_ne {k c : Caller} (hne : k ≠ c) (d : Desk) (o : Offer) :
    (d.handOver k o).slot c = d.slot c := by
  simp [Desk.slot, Desk.handOver, entries_cons_of_ne hne, hne]

theorem Desk.slot_leave_self (d : Desk) (c : Caller) :
    (d.leave c).slot c = { d.slot c with pending := [] } := by
  rw [Desk.slot, Desk.leave, entries_filter_self]
  rfl

theorem Desk.slot_leave_of_ne {k c : Caller} (hne : k ≠ c) (d : Desk) :
    (d.leave k).slot c = d.slot c := by
  rw [Desk.slot, Desk.slot, Desk.leave, entries_filter_of_ne hne]

theorem Desk.slot_reply_self (d : Desk) (c : Caller) (v : Verdict) :
    (d.reply c v).slot c = (d.slot c).reply v := by
  unfold Desk.reply Slot.reply
  by_cases hc : c ∈ d.awaiting
  · have hpos : 0 < (d.slot c).awaiting := List.count_pos_iff.mpr hc
    rw [if_pos hc, if_pos hpos]
    simp [Desk.slot]
  · have hzero : ¬ 0 < (d.slot c).awaiting := fun hpos => hc (List.count_pos_iff.mp hpos)
    rw [if_neg hc, if_neg hzero]

theorem Desk.slot_reply_of_ne {k c : Caller} (hne : k ≠ c) (d : Desk) (v : Verdict) :
    (d.reply k v).slot c = d.slot c := by
  unfold Desk.reply
  split
  · simp [Desk.slot, entries_cons_of_ne hne, List.count_erase_of_ne hne.symm]
  · rfl

theorem Desk.slot_queue_self (d : Desk) (c : Caller) (o : Offer) :
    ({ d with pending := d.pending ++ [(c, o)] } : Desk).slot c =
      { d.slot c with pending := (d.slot c).pending ++ [o] } := by
  rw [Desk.slot, entries_append, entries_cons_self]
  rfl

theorem Desk.slot_queue_of_ne {k c : Caller} (hne : k ≠ c) (d : Desk) (o : Offer) :
    ({ d with pending := d.pending ++ [(k, o)] } : Desk).slot c = d.slot c := by
  simp [Desk.slot, entries_cons_of_ne hne]

theorem Desk.slot_collect_self (d : Desk) (c : Caller) :
    ({ d with verdicts := d.verdicts.filter fun p => p.1 ≠ c } : Desk).slot c =
      { d.slot c with verdicts := [] } := by
  rw [Desk.slot, entries_filter_self]
  rfl

theorem Desk.slot_collect_of_ne {k c : Caller} (hne : k ≠ c) (d : Desk) :
    ({ d with verdicts := d.verdicts.filter fun p => p.1 ≠ k } : Desk).slot c = d.slot c := by
  rw [Desk.slot, Desk.slot, entries_filter_of_ne hne]

theorem Desk.slot_forsake_self (d : Desk) (c : Caller) :
    ({ d with awaiting := d.awaiting.erase c } : Desk).slot c =
      { d.slot c with awaiting := (d.slot c).awaiting - 1 } := by
  rw [Desk.slot, List.count_erase_self]
  rfl

theorem Desk.slot_forsake_of_ne {k c : Caller} (hne : k ≠ c) (d : Desk) :
    ({ d with awaiting := d.awaiting.erase k } : Desk).slot c = d.slot c := by
  rw [Desk.slot, Desk.slot, List.count_erase_of_ne hne.symm]

/-- What others do at the desk changes nothing for a caller; what is done with its own offers is
    done step by step. -/
theorem Desk.Step.slot {d d' : Desk} {begun : List (Caller × Offer)} {es : List Event}
    (h : Desk.Step d begun es d') (hd : d.Sound) (c : Caller) :
    Slot.Step (d.slot c) (entries c begun) (entries c (pushes es)) (entries c (Saver.verdicts es))
      (d'.slot c) := by
  have hrest {begun : List (Caller × Offer)} {es : List Event} {d' : Desk}
      (hbegun : entries c begun = []) (hpushes : entries c (pushes es) = [])
      (hverdicts : entries c (Saver.verdicts es) = []) (hsame : d'.slot c = d.slot c) :
      Slot.Step (d.slot c) (entries c begun) (entries c (pushes es))
        (entries c (Saver.verdicts es)) (d'.slot c) := by
    rw [hbegun, hpushes, hverdicts, hsame]
    exact .rest
  have haside {es : List Event} {d' : Desk} (aside : Aside es) (hsame : d'.slot c = d.slot c) :=
    @hrest _ _ d' (entries_nil c) (by rw [aside.pushes_eq_nil, entries_nil])
      (by rw [aside.verdicts_eq_nil, entries_nil]) hsame
  cases h with
  | rest aside => exact haside aside rfl
  | shut aside => exact haside aside rfl
  | wake aside => exact haside aside rfl
  | drain => exact haside aside_nil rfl
  | exit aside => exact haside aside rfl
  | @push k o rest es aside alive first =>
    have hpushes : pushes (.pushed k o :: es) = [(k, o)] := by
      show (k, o) :: pushes es = _
      rw [aside.pushes_eq_nil]
    have hverdicts : Saver.verdicts (.pushed k o :: es) = [] := aside.verdicts_eq_nil
    by_cases hc : k = c
    · subst hc
      rw [hpushes, hverdicts, slot_reply_self, entries_cons_self]
      exact .push (by show entries k d.items = _; rw [first, entries_cons_self])
    · refine hrest rfl ?_ (by rw [hverdicts, entries_nil]) ?_
      · rw [hpushes, entries_cons_of_ne hc, entries_nil]
      · rw [slot_reply_of_ne hc, Desk.slot, Desk.slot, first, entries_cons_of_ne hc]
  | @refuse k o rest n alive first =>
    by_cases hc : k = c
    · subst hc
      rw [slot_reply_self]
      exact .refuse (by show entries k d.items = o :: _; rw [first, entries_cons_self])
    · refine hrest rfl rfl rfl ?_
      rw [slot_reply_of_ne hc, Desk.slot, Desk.slot, first, entries_cons_of_ne hc]
  | @turnAway k o e why =>
    by_cases hc : k = c
    · subst hc
      rw [entries_cons_self, entries_verdicts_returned]
      exact .turnAway why
    · exact hrest (entries_cons_of_ne hc o []) rfl (entries_cons_of_ne hc _ []) rfl
  | @enter k o unlocked =>
    by_cases hc : k = c
    · subst hc
      rw [slot_handOver_self, entries_cons_self]
      exact .enter
    · exact hrest (entries_cons_of_ne hc o []) rfl rfl (slot_handOver_of_ne hc d o)
  | @queue k o =>
    by_cases hc : k = c
    · subst hc
      rw [entries_cons_self, slot_queue_self]
      exact .queue
    · exact hrest (entries_cons_of_ne hc o []) rfl rfl (slot_queue_of_ne hc d o)
  | @letIn k o found unlocked =>
    by_cases hc : k = c
    · subst hc
      obtain ⟨rest, first⟩ := entries_of_lookup found
      rw [slot_handOver_self, slot_leave_self]
      exact .letIn first
    · refine hrest rfl rfl rfl ?_
      rw [slot_handOver_of_ne hc, slot_leave_of_ne hc]
  | @withdraw k o e found gone =>
    by_cases hc : k = c
    · subst hc
      obtain ⟨rest, first⟩ := entries_of_lookup found
      rw [slot_leave_self]
      rcases gone with rfl | rfl
      · rw [entries_verdicts_returned]
        exact .withdraw first (Or.inl rfl)
      · exact .withdraw first (Or.inr rfl)
    · have hsame := slot_leave_of_ne hc d
      rcases gone with rfl | rfl
      · exact hrest rfl rfl (entries_cons_of_ne hc _ []) hsame
      · exact hrest rfl rfl rfl hsame
  | @collect k v e found gone =>
    by_cases hc : k = c
    · subst hc
      obtain ⟨rest, first⟩ := entries_of_lookup found
      rw [slot_collect_self]
      rcases gone with rfl | rfl
      · rw [entries_verdicts_returned]
        exact .collect first (Or.inl rfl)
      · exact .collect first (Or.inr rfl)
    · have hsame := slot_collect_of_ne hc d
      rcases gone with rfl | rfl
      · exact hrest rfl rfl (entries_cons_of_ne hc _ []) hsame
      · exact hrest rfl rfl rfl hsame
  | @forsake k e waits gone =>
    rcases gone with rfl | ⟨-, exited⟩
    · by_cases hc : k = c
      · subst hc
        rw [slot_forsake_self]
        exact .forsake (List.count_pos_iff.mpr waits)
      · exact hrest rfl rfl rfl (slot_forsake_of_ne hc d)
    · -- Nobody waits for a verdict once the event loop has exited.
      rw [hd.awaiting_eq_nil exited] at waits
      cases waits

/-! ## One call after another -/

/-- Whoever gets this error was refused by the event loop or turned away. -/
def Declines (e : SaverError) : Prop := (∃ n, e = .capacityReached n) ∨ TurnsAway e

/-- How far a call to save `o` has come whose caller has nothing else at the desk: what it has pushed
    so far, with which verdict it has returned, and what the caller has at the desk. -/
inductive Visit (o : Offer) : List Offer → List Verdict → Slot → Prop
  | inLine : Visit o [] [] ⟨[o], [], 0, []⟩
  | inMail : Visit o [] [] ⟨[], [o], 1, []⟩
  | taken : Visit o [o] [] ⟨[], [], 0, [.ok ()]⟩
  | refused {n} : Visit o [] [] ⟨[], [], 0, [.error (.capacityReached n)]⟩
  | thanked : Visit o [o] [.ok ()] .empty
  | rejected {e} (why : Declines e) : Visit o [] [.error e] .empty
  /-- The caller has given up, and will not be told. -/
  | forgotten {pushed items} : Visit o pushed [] ⟨[], items, 0, []⟩

/-- Nothing comes of a caller who has nothing at the desk. -/
theorem Slot.Step.of_empty {pushed : List Offer} {told : List Verdict} {s : Slot}
    (h : Slot.Step .empty [] pushed told s) : pushed = [] ∧ told = [] ∧ s = .empty := by
  cases h with
  | rest => exact ⟨rfl, rfl, rfl⟩
  | push first => cases first
  | refuse first => cases first
  | letIn first => cases first
  | withdraw first => cases first
  | collect first => cases first
  | forsake waits => cases waits

theorem Slot.Step.visit {o : Offer} {pushed : List Offer} {told : List Verdict} {s : Slot}
    (h : Slot.Step .empty [o] pushed told s) : Visit o pushed told s := by
  cases h with
  | turnAway why => exact .rejected (Or.inr why)
  | enter => exact .inMail
  | queue => exact .inLine

/-- A call goes on as the desk does, until it returns. -/
theorem Visit.step {o : Offer} {pushed pushed' : List Offer} {told : List Verdict} {s s' : Slot}
    (h : Visit o pushed [] s) (hstep : Slot.Step s [] pushed' told s') :
    Visit o (pushed ++ pushed') told s' := by
  cases h with
  | inLine =>
    cases hstep with
    | rest => exact .inLine
    | letIn first =>
      cases first
      exact .inMail
    | withdraw first gone =>
      rcases gone with rfl | rfl
      · exact .rejected (Or.inr (Or.inl rfl))
      · exact .forgotten
    | push first => cases first
    | refuse first => cases first
    | collect first => cases first
    | forsake waits => cases waits
  | inMail =>
    cases hstep with
    | rest => exact .inMail
    | push first =>
      cases first
      exact .taken
    | refuse first =>
      cases first
      exact .refused
    | forsake => exact .forgotten
    | letIn first => cases first
    | withdraw first => cases first
    | collect first => cases first
  | taken =>
    cases hstep with
    | rest => exact .taken
    | collect first gone =>
      cases first
      rcases gone with rfl | rfl
      · exact .thanked
      · exact .forgotten
    | push first => cases first
    | refuse first => cases first
    | letIn first => cases first
    | withdraw first => cases first
    | forsake waits => cases waits
  | refused =>
    cases hstep with
    | rest => exact .refused
    | collect first gone =>
      cases first
      rcases gone with rfl | rfl
      · exact .rejected (Or.inl ⟨_, rfl⟩)
      · exact .forgotten
    | push first => cases first
    | refuse first => cases first
    | letIn first => cases first
    | withdraw first => cases first
    | forsake waits => cases waits
  | forgotten =>
    -- The offer may still be in the mailbox, but nobody waits for the verdict.
    cases hstep with
    | rest => exact .forgotten
    | push => exact .forgotten
    | refuse => exact .forgotten
    | letIn first => cases first
    | withdraw first => cases first
    | collect first => cases first
    | forsake waits => cases waits

end OfferService.Saver
