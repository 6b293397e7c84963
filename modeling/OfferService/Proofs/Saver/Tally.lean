import Mathlib.Algebra.GroupWithZero.Nat
import OfferService.Proofs.Saver.Accounts
import OfferService.Proofs.Saver.Conservation
import OfferService.Proofs.Saver.Gate

/-
  OfferService.Proofs.Saver.Tally

  How many offers were stored, as the ends of flushes tell it. Storage has the offers of a flush
  batch by batch, while the flush speaks of them when it ends; the difference is what the flush
  under way has stored so far. Only an answer of storage makes offers stored ones.
-/
namespace OfferService.Saver

/-! ## The tally -/

/-- How many offers of the flush under way are stored. -/
def Loop.underway : Loop → Nat
  | .flushing _ f _ => f.total - f.unstored.length
  | _ => 0

/-- How many offers were stored by flushes that have ended. -/
def tally (es : List Event) : Nat := ((flushes es).map Batch.Outcome.stored).sum

@[simp] theorem tally_append (es fs : List Event) : tally (es ++ fs) = tally es + tally fs := by
  rw [tally, flushes_append, List.map_append, List.sum_append]
  rfl

@[simp] theorem flushes_arrivalEvents (at_ : Station) (left : Nat) :
    flushes (arrivalEvents at_ left) = [] := by
  unfold arrivalEvents
  split <;> rfl

theorem underway_of_calm {loop : Loop} (calm : loop.flush? = none) : loop.underway = 0 := by
  cases loop with
  | flushing => cases calm
  | _ => rfl

theorem underway_of_idle {loop : Loop} {at_ : Station} (idle : loop = .idle at_) :
    loop.underway = 0 := underway_of_calm (by rw [idle]; rfl)

theorem underway_of_unstored {why : Reason} {f : Batch.Flush Offer} {after : Station}
    {items : List Offer} {groups : Nat} (cut : f.Cuts items groups) (whole : f.unstored = items) :
    (Loop.flushing why f after).underway = 0 := by
  show f.total - f.unstored.length = 0
  rw [cut.total_eq, whole, Nat.sub_self]

/-- What was under way and what is stored now is what the flushes tell and what is under way. -/
theorem Core.Step.tally {asked : Bool} {k k' : Core} {es : List Event} (hk : k.Sound)
    (h : Core.Step asked k es k') :
    k.loop.underway + (stored es).length = Saver.tally es + k'.loop.underway := by
  cases h with
  | rest quiet =>
    have htally : Saver.tally es = 0 := by rw [Saver.tally, quiet.flushes_eq_nil]; rfl
    rw [quiet.stored_eq_nil, htally, List.length_nil]
    omega
  | wake absent => rw [absent]; rfl
  | drain idle => rw [underway_of_idle idle]; rfl
  | refuse idle => rw [underway_of_idle idle]; rfl
  | push idle =>
    show k.loop.underway + 0 = 0 + k.loop.underway
    omega
  | fill idle alive last cut whole =>
    rw [underway_of_idle idle, underway_of_unstored cut whole]
    rfl
  | flush occasion idle cut whole =>
    rw [underway_of_idle idle, underway_of_unstored cut whole]
    rfl
  | leave idle => rw [underway_of_idle idle]; rfl
  | @proceed why f g after r busy answered =>
    -- The batch that was stored counts for the flush that goes on.
    obtain ⟨rfl, hunstored⟩ := Batch.Flush.answer_waiting answered
    obtain ⟨-, items, hcut, -⟩ := hk.busy_of_flushing busy
    have hf := congrArg List.length hcut.stored_append_unstored
    have hlength := congrArg List.length hunstored
    have htotal := (hcut.answer answered).total_eq
    rw [List.length_append] at hf hlength
    rw [busy]
    show f.total - f.unstored.length + (f.current ++ []).length = 0 + (g.total - g.unstored.length)
    rw [hcut.total_eq, htotal, List.append_nil]
    omega
  | @settle why f after r o busy answered =>
    obtain ⟨-, items, hcut, -⟩ := hk.busy_of_flushing busy
    have hf := congrArg List.length hcut.stored_append_unstored
    rw [List.length_append] at hf
    rw [busy]
    have htally : Saver.tally (.callEnded f.current r :: .flushEnded why o ::
        arrivalEvents after o.remaining.length) = o.stored := by
      rw [Saver.tally]
      show ((o :: flushes (arrivalEvents after o.remaining.length)).map
        Batch.Outcome.stored).sum = o.stored
      rw [flushes_arrivalEvents]
      exact Nat.add_zero _
    rw [htally]
    show f.total - f.unstored.length + _ = o.stored + 0
    rcases Batch.Flush.answer_ended answered with ⟨rfl, hunstored, rfl⟩ | ⟨e, rfl, rfl⟩
    · -- The last batch was stored, and with it all offers.
      have hlength := congrArg List.length hunstored
      show f.total - f.unstored.length + (f.current ++ stored (arrivalEvents after 0)).length =
        f.total - 0 + 0
      rw [stored_arrivalEvents, List.append_nil, hcut.total_eq]
      omega
    · show f.total - f.unstored.length +
        (stored (arrivalEvents after f.unstored.length)).length = f.total - f.unstored.length + 0
      rw [stored_arrivalEvents]
      rfl

/-! ## Savers without offers -/

/-- The core has no offers, and no flush is under way. -/
structure Core.Vacant (k : Core) : Prop where
  calm : k.loop.flush? = none
  empty : k.buffer = []

/-- Unless an offer is pushed, nothing is stored and flushed where there is nothing. -/
theorem Core.Step.vacant {asked : Bool} {k k' : Core} {es : List Event}
    (h : Core.Step asked k es k') (hk : k.Vacant) (none : pushed es = []) :
    stored es = [] ∧ flushes es = [] ∧ k'.Vacant := by
  cases h with
  | rest quiet => exact ⟨quiet.stored_eq_nil, quiet.flushes_eq_nil, hk⟩
  | wake => exact ⟨rfl, rfl, rfl, hk.empty⟩
  | drain => exact ⟨rfl, rfl, rfl, hk.empty⟩
  | refuse => exact ⟨rfl, rfl, hk⟩
  | push => cases none
  | fill => cases none
  | flush occasion idle cut whole =>
    -- A flush is of something.
    rw [hk.empty] at cut whole
    exact absurd (List.append_eq_nil_iff.mp whole).1 cut.current_ne_nil
  | leave => exact ⟨rfl, rfl, rfl, hk.empty⟩
  | proceed busy =>
    have hcalm := hk.calm
    rw [busy] at hcalm
    cases hcalm
  | settle busy =>
    have hcalm := hk.calm
    rw [busy] at hcalm
    cases hcalm

/-! ## Whole runs -/

section

variable {capacity groups : Nat} {ticker : Ticker} {s₀ s : State} {as : List Action}
  {es : List Event}

/-- In a run, the offers that were stored are those that the flushes tell of, and those that the
    flush under way has stored. -/
theorem stored_length_of_path (h : Path step s₀ as es s)
    (hnew : new capacity groups ticker = .ok s₀) :
    (stored es).length = tally es + s.loop.underway := by
  refine core_induction h (P := fun es k => (stored es).length = tally es + k.loop.underway)
    (coherent_of_new hnew) ?_ ?_
  · obtain ⟨-, -, rfl⟩ := new_eq_ok hnew
    rfl
  · intro asked es k new k' hk ih hstep
    have hnow := hstep.tally hk
    rw [stored_append, tally_append, List.length_append]
    omega

/-- A saver that nobody has handed an offer has pushed none, stored none and told of no flush. -/
theorem vacant_of_unused (h : Path step s₀ as es s)
    (hnew : new capacity groups ticker = .ok s₀) (unused : saves as = []) :
    pushed es = [] ∧ stored es = [] ∧ flushes es = [] ∧ s.core.Vacant := by
  have distinct : Distinct as := by
    rw [Distinct, unused]
    exact .nil
  obtain ⟨gone, haccounts⟩ := accounts_of_path h hnew distinct
  have hperm := haccounts.perm
  rw [unused] at hperm
  have hpushes : pushes es = [] := by
    have hall := hperm.eq_nil
    simp only [List.append_eq_nil_iff] at hall
    exact hall.1.1.1.1
  have hpushed : pushed es = [] := by rw [pushed, hpushes, List.map_nil]
  refine ⟨hpushed, ?_⟩
  refine core_induction h
    (P := fun es k => pushed es = [] → stored es = [] ∧ flushes es = [] ∧ k.Vacant)
    (coherent_of_new hnew) ?_ ?_ hpushed
  · obtain ⟨-, -, rfl⟩ := new_eq_ok hnew
    exact fun _ => ⟨rfl, rfl, rfl, rfl⟩
  · intro asked es k new k' _ ih hstep hall
    rw [pushed_append] at hall
    obtain ⟨hbefore, hnow⟩ := List.append_eq_nil_iff.mp hall
    obtain ⟨hstored, hflushes, vacant⟩ := ih hbefore
    obtain ⟨hstored', hflushes', vacant'⟩ := hstep.vacant vacant hnow
    rw [stored_append, flushes_append, hstored, hflushes, hstored', hflushes']
    exact ⟨rfl, rfl, vacant'⟩

/-- Once a call to close has returned, the flushes and the number that is shown tell of all offers
    that were pushed. -/
theorem pushed_length_of_closeReturned {c : Caller} (h : Path step s₀ as es s)
    (hnew : new capacity groups ticker = .ok s₀) (returned : .closeReturned c ∈ es) :
    (pushed es).length = tally es + s.shown := by
  have hcalm : s.loop.flush? = none ∧ s.loop.unstored = [] ∧ s.loop.underway = 0 := by
    -- The event loop has exited then, or there was none.
    rcases (behind_of_path h hnew).stopped (stopped_of_closeReturned h returned) with
      absent | exited
    · rw [absent]
      exact ⟨rfl, rfl, rfl⟩
    · rw [exited]
      exact ⟨rfl, rfl, rfl⟩
  obtain ⟨calm, unstored, underway⟩ := hcalm
  have hshown : s.shown = s.buffer.length :=
    ((coherent_of_path h (coherent_of_new hnew)).sound.calm calm).2
  have hstored := stored_length_of_path h hnew
  have hkept : s.core.kept = s.buffer := congrArg (· ++ s.buffer) unstored
  rw [pushed_eq_of_new h hnew, hkept, List.length_append, hstored, underway, hshown]
  rfl

end

/-! ## Answers of storage -/

/-- Storage stores the batch of the flush under way, or nothing. -/
theorem stored_of_answer {s t : State} {r : Except Storage.Error Unit} {es : List Event}
    {why : Reason} {f : Batch.Flush Offer} {after : Station} (busy : s.loop = .flushing why f after)
    (h : answer s r = some (t, es)) :
    stored es = match r with
      | .ok () => f.current
      | .error _ => [] := by
  have hbatch : ∀ later, stored later = [] → stored (.callEnded f.current r :: later) =
      match r with
      | .ok () => f.current
      | .error _ => [] := by
    intro later hlater
    rcases r with e | ⟨⟩
    · exact hlater
    · show f.current ++ stored later = f.current
      rw [hlater, List.append_nil]
  cases answer_cases h with
  | proceed busy' =>
    rw [busy] at busy'
    cases busy'
    exact hbatch _ rfl
  | settle busy' =>
    rw [busy] at busy'
    cases busy'
    exact hbatch _ (stored_arrivalEvents _ _)

/-- The event loop moves of its own accord only while no flush is under way. -/
theorem LoopMove.calm {s : State} {m : Moved} (h : LoopMove s m) : s.loop.flush? = none := by
  cases h with
  | close idle => rw [idle]; rfl
  | take idle => rw [idle]; rfl
  | tick idle => rw [idle]; rfl
  | unfollow idle => rw [idle]; rfl
  | finish idle => rw [idle]; rfl

/-- Nothing is stored but in a flush. -/
theorem Core.Step.stored_of_calm {asked : Bool} {k k' : Core} {es : List Event}
    (h : Core.Step asked k es k') (calm : k.loop.flush? = none) : stored es = [] := by
  cases h with
  | rest quiet => exact quiet.stored_eq_nil
  | proceed busy => rw [busy] at calm; cases calm
  | settle busy => rw [busy] at calm; cases calm
  | _ => rfl

/-- Nothing is stored but by an answer of storage. -/
theorem stored_of_step {s t : State} {a : Action} {es : List Event} (hs : s.Coherent)
    (h : step s a = some (t, es)) (other : ∀ r, a ≠ .answer r) : stored es = [] := by
  have hcore := hs.core_step h
  cases move_cases h with
  | loop move => exact hcore.stored_of_calm move.calm
  | answer => exact absurd rfl (other _)
  | call move => exact move.quiet.stored_eq_nil
  | door _ move =>
    cases move with
    | move _ quiet => exact quiet.stored_eq_nil
    | start => rfl
    | shut _ quiet => exact quiet.stored_eq_nil

/-! ## Counters -/

/-- The counters `n` are the counters `m` after flushes that have stored `count` offers: what
    requests have to do with is the same. -/
def Flushed (m : Metrics) (count : Nat) (n : Metrics) : Prop :=
  ∃ failures retained, n = { m with
    flushedOffers := m.flushedOffers + UInt64.ofNat count
    flushFailures := failures
    retainedOffers := retained }

theorem Flushed.none (m : Metrics) : Flushed m 0 m := by
  have hzero : m.flushedOffers + UInt64.ofNat 0 = m.flushedOffers := UInt64.add_zero _
  refine ⟨m.flushFailures, m.retainedOffers, ?_⟩
  rw [hzero]

theorem Flushed.trans {m n l : Metrics} {i j : Nat} (h : Flushed m i n) (h' : Flushed n j l) :
    Flushed m (i + j) l := by
  obtain ⟨_, _, rfl⟩ := h
  obtain ⟨failures, retained, rfl⟩ := h'
  refine ⟨failures, retained, ?_⟩
  rw [UInt64.ofNat_add, ← UInt64.add_assoc]

/-- An event counts what a flush has stored. -/
theorem Event.flushed_count (m : Metrics) (e : Event) : Flushed m (tally [e]) (e.count m) := by
  cases e with
  | flushEnded why o =>
    have htally : tally [.flushEnded why o] = o.stored := Nat.add_zero _
    rw [htally]
    unfold Event.count
    by_cases nothing : o.total = 0 ∧ o.error.isNone = true
    · -- A flush of nothing is not told, and has stored nothing.
      have hstored : o.stored = 0 := by rw [Batch.Outcome.stored, nothing.1, Nat.zero_sub]
      have hreport : o.report = none := by rw [Batch.Outcome.report, if_pos nothing]
      simp only [hreport, hstored]
      exact .none m
    · have hreport : o.report = some (o.stored, o.remaining.length) := by
        rw [Batch.Outcome.report, if_neg nothing]
      simp only [hreport]
      exact ⟨_, _, rfl⟩
  | _ => exact .none m

/-- The counters after events. -/
def countAll (m : Metrics) (es : List Event) : Metrics := es.foldl (fun m e => e.count m) m

/-- Where no flush has ended, the counters are the same. -/
theorem countAll_of_flushes_eq_nil {es : List Event} (m : Metrics) (h : flushes es = []) :
    countAll m es = m := by
  induction es generalizing m with
  | nil => rfl
  | cons e es ih =>
    have hsame : e.count m = m := by
      cases e with
      | flushEnded => cases h
      | _ => rfl
    show countAll (e.count m) es = m
    rw [hsame]
    exact ih m (List.append_eq_nil_iff.mp h).2

theorem flushed_countAll (m : Metrics) (es : List Event) :
    Flushed m (tally es) (countAll m es) := by
  induction es generalizing m with
  | nil => exact .none m
  | cons e es ih =>
    have htally : tally (e :: es) = tally [e] + tally es := tally_append [e] es
    rw [htally]
    exact (e.flushed_count m).trans (ih (e.count m))

end OfferService.Saver
