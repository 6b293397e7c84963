import Mathlib.Data.List.Basic
import OfferService.Proofs.Batch.Chunks
import OfferService.Proofs.Saver.Barrier
import OfferService.Proofs.Saver.Undisturbed

/-
  OfferService.Proofs.Saver.Chunks

  Which batches storage is given as long as it takes all of them and no flush is made at a tick.
  The offers that were pushed are then a list in chunks of the capacity, and the calls are the
  splits of these chunks, one after another. The event loop keeps to that by what it does at the
  boundary: the offer that completes a chunk sets off the flush of just this chunk, no other offer
  is taken before that flush has ended, and the flush has ended when its last batch is stored.
-/
namespace OfferService.Saver

/-! ## Calls to storage -/

/-- The batch that storage is given. -/
def Event.call : Event → List (List Offer)
  | .callStarted batch => [batch]
  | _ => []

/-- The batches that storage was given, in that order. -/
def calls (es : List Event) : List (List Offer) := es.flatMap Event.call

@[simp] theorem calls_append (es fs : List Event) : calls (es ++ fs) = calls es ++ calls fs :=
  List.flatMap_append

theorem Quiet.calls_eq_nil {es : List Event} (h : Quiet es) : calls es = [] :=
  flatMap_eq_nil_of_forall h fun e he => by cases e <;> first | rfl | cases he

theorem calls_arrivalEvents (at_ : Station) (left : Nat) : calls (arrivalEvents at_ left) = [] := by
  unfold arrivalEvents
  split <;> rfl

/-! ## The event loop keeps to the chunks -/

/-- A flush of a chunk is under way behind whole ones; the chunk is the last one if it is not whole
    itself. -/
structure Underway (k : Core) (f : Batch.Flush Offer) (after : Station) (chunk : List Offer) :
    Prop where
  cuts : f.Cuts chunk k.groups
  length_le : chunk.length ≤ k.capacity
  length_eq : after ≠ .exited → chunk.length = k.capacity

/-- Where an event loop stands that has pushed these offers and given storage these batches: between
    two flushes, in the flush of a chunk, or at its end. -/
inductive InStep (offers : List Offer) (batches : List (List Offer)) (k : Core) : Prop
  /-- The whole chunks are stored, and the buffer is the next one as far as it goes. -/
  | resting {full} (calm : k.loop.flush? = none) (alive : k.loop ≠ .idle .exited)
      (offers_eq : offers = full ++ k.buffer)
      (aligned : Batch.Aligned k.capacity k.groups full batches)
      (room : k.buffer.length < k.capacity)
  | flushing {why f after full chunk before} (busy : k.loop = .flushing why f after)
      (offers_eq : offers = full ++ chunk)
      (aligned : Batch.Aligned k.capacity k.groups full before)
      (underway : Underway k f after chunk)
      (batches_eq : batches = before ++ (f.stored.reverse ++ [f.current]))
  | exited (exited : k.loop = .idle .exited) (empty : k.buffer = [])
      (cut : Batch.splitEach k.capacity k.groups offers = .ok batches)

namespace InStep

variable {offers : List Offer} {batches : List (List Offer)} {k k' : Core}

theorem of_calm (h : InStep offers batches k) (calm : k.loop.flush? = none)
    (alive : k.loop ≠ .idle .exited) :
    ∃ full, offers = full ++ k.buffer ∧ Batch.Aligned k.capacity k.groups full batches ∧
      k.buffer.length < k.capacity := by
  cases h with
  | resting _ _ offers_eq aligned room => exact ⟨_, offers_eq, aligned, room⟩
  | flushing busy => rw [busy] at calm; cases calm
  | exited exited => exact absurd exited alive

theorem of_idle {at_ : Station} (h : InStep offers batches k) (idle : k.loop = .idle at_)
    (alive : at_ ≠ .exited) :
    ∃ full, offers = full ++ k.buffer ∧ Batch.Aligned k.capacity k.groups full batches ∧
      k.buffer.length < k.capacity := by
  apply h.of_calm
  · rw [idle]
    rfl
  · rw [idle]
    exact fun exited => alive (Loop.idle.inj exited)

theorem of_flushing {why : Reason} {f : Batch.Flush Offer} {after : Station}
    (h : InStep offers batches k) (busy : k.loop = .flushing why f after) :
    ∃ full chunk before, offers = full ++ chunk ∧
      Batch.Aligned k.capacity k.groups full before ∧ Underway k f after chunk ∧
      batches = before ++ (f.stored.reverse ++ [f.current]) := by
  cases h with
  | resting calm => rw [busy] at calm; cases calm
  | flushing busy' offers_eq aligned underway batches_eq =>
    rw [busy] at busy'
    cases busy'
    exact ⟨_, _, _, offers_eq, aligned, underway, batches_eq⟩
  | exited exited => rw [busy] at exited; cases exited

theorem of_exited (h : InStep offers batches k) (exited : k.loop = .idle .exited) :
    Batch.splitEach k.capacity k.groups offers = .ok batches := by
  cases h with
  | resting _ alive => exact absurd exited alive
  | flushing busy => rw [busy] at exited; cases exited
  | exited _ _ cut => exact cut

/-- The flush of a chunk begins with its first batch. -/
theorem begin {why : Reason} {f : Batch.Flush Offer} {after : Station} {full chunk : List Offer}
    (busy : k.loop = .flushing why f after)
    (aligned : Batch.Aligned k.capacity k.groups full batches) (underway : Underway k f after chunk)
    (whole : f.unstored = chunk) : InStep (full ++ chunk) (batches ++ [f.current]) k := by
  have hstored : f.stored = [] :=
    underway.cuts.stored_eq_nil (Nat.le_of_eq (congrArg List.length whole).symm)
  exact .flushing busy rfl aligned underway (by rw [hstored]; rfl)

/-- A flush that has stored all of its chunk ends; the chunk is done with, and so are all of them if
    the event loop exits. -/
theorem settle {f : Batch.Flush Offer} {after : Station} {full chunk : List Offer}
    {before : List (List Offer)} (hk : 0 < k.capacity)
    (aligned : Batch.Aligned k.capacity k.groups full before) (underway : Underway k f after chunk)
    (split_eq : Batch.split chunk k.groups = .ok (f.stored.reverse ++ [f.current])) :
    InStep (full ++ chunk) (before ++ (f.stored.reverse ++ [f.current]))
      { k with loop := .idle after, buffer := [], shown := 0 } := by
  by_cases hafter : after = .exited
  · subst hafter
    have hne : chunk ≠ [] := by
      rintro rfl
      exact underway.cuts.current_ne_nil (List.append_eq_nil_iff.mp
        (List.append_eq_nil_iff.mp underway.cuts.stored_append_unstored).2).1
    exact .exited rfl rfl
      (Batch.splitEach_append hk aligned.whole aligned.cut hne underway.length_le split_eq)
  · have haligned := aligned.append hk (underway.length_eq hafter) split_eq
    exact .resting rfl (fun exited => hafter (Loop.idle.inj exited)) (List.append_nil _).symm
      haligned hk

/-- Nothing was pushed and no call was made meanwhile. -/
theorem append {es new : List Event} (h : InStep (pushed es) (calls es) k)
    (unpushed : pushed new = []) (uncalled : calls new = []) :
    InStep (pushed (es ++ new)) (calls (es ++ new)) k := by
  rw [pushed_append, calls_append, unpushed, uncalled, List.append_nil, List.append_nil]
  exact h

theorem step {asked : Bool} {es new : List Event} (hk : k.Sound)
    (h : InStep (pushed es) (calls es) k) (calm : Undisturbed (es ++ new) k'.loop)
    (hstep : Core.Step asked k new k') :
    InStep (pushed (es ++ new)) (calls (es ++ new)) k' := by
  cases hstep with
  | rest quiet => exact h.append quiet.pushed_eq_nil quiet.calls_eq_nil
  | wake absent =>
    obtain ⟨full, hoffers, haligned, hroom⟩ :=
      h.of_calm (by rw [absent]; rfl) (by rw [absent]; nofun)
    exact append (.resting rfl nofun hoffers haligned hroom) rfl rfl
  | drain idle =>
    obtain ⟨full, hoffers, haligned, hroom⟩ := h.of_idle idle (by decide)
    exact append (.resting rfl nofun hoffers haligned hroom) rfl rfl
  | refuse => exact h.append rfl rfl
  | @push at_ c o idle alive room =>
    obtain ⟨full, hoffers, haligned, hroom⟩ := h.of_idle idle alive
    rw [pushed_append, calls_append, hoffers]
    show InStep (full ++ k.buffer ++ [o]) (calls es ++ []) _
    rw [List.append_assoc, List.append_nil]
    refine .resting ?_ ?_ rfl haligned ?_
    · show k.loop.flush? = none
      rw [idle]
      rfl
    · show k.loop ≠ .idle .exited
      rw [idle]
      exact fun exited => alive (Loop.idle.inj exited)
    · show (k.buffer ++ [o]).length < k.capacity
      rw [List.length_append]
      exact room
  | @fill at_ c o f idle alive last cut whole =>
    -- The buffer and this offer are a whole chunk, which no flush has been made of.
    obtain ⟨full, hoffers, haligned, hroom⟩ := h.of_idle idle alive
    rw [pushed_append, calls_append, hoffers]
    show InStep (full ++ k.buffer ++ [o]) (calls es ++ [f.current]) _
    rw [List.append_assoc]
    have hlength : (k.buffer ++ [o]).length = k.capacity := by
      rw [List.length_append]
      exact last
    exact .begin rfl haligned ⟨cut, Nat.le_of_eq hlength, fun _ => hlength⟩ whole
  | @flush why at_ after f occasion idle cut whole =>
    cases occasion with
    | periodic => exact absurd rfl (calm.underWay f .serving)
    | final =>
      -- The last chunk is not a whole one; no other comes after it.
      obtain ⟨full, hoffers, haligned, hroom⟩ := h.of_idle idle (by decide)
      rw [pushed_append, calls_append, hoffers]
      show InStep (full ++ k.buffer ++ []) (calls es ++ [f.current]) _
      rw [List.append_nil]
      exact .begin rfl haligned ⟨cut, Nat.le_of_lt hroom, fun hne => absurd rfl hne⟩ whole
  | leave idle empty =>
    -- Nothing is in the buffer, so all chunks were whole.
    obtain ⟨full, hoffers, haligned, -⟩ := h.of_idle idle (by decide)
    rw [empty, List.append_nil] at hoffers
    refine append (.exited rfl empty ?_) rfl rfl
    rw [hoffers]
    exact haligned.cut
  | @proceed why f g after r busy answered =>
    obtain ⟨full, chunk, before, hoffers, haligned, hunderway, hbatches⟩ := h.of_flushing busy
    have hstored := Batch.Flush.stored_of_waiting answered
    rw [pushed_append, calls_append]
    show InStep (pushed es ++ []) (calls es ++ [g.current]) _
    rw [List.append_nil]
    refine .flushing rfl hoffers haligned
      ⟨hunderway.cuts.answer answered, hunderway.length_le, hunderway.length_eq⟩ ?_
    rw [hbatches, hstored, List.reverse_cons, List.append_assoc]
  | @settle why f after r o busy answered =>
    -- No batch was refused, so the flush has ended with its last one.
    obtain ⟨full, chunk, before, hoffers, haligned, hunderway, hbatches⟩ := h.of_flushing busy
    refine append ?_ (pushed_arrivalEvents after _) (calls_arrivalEvents after _)
    rw [hoffers, hbatches]
    rcases Batch.Flush.answer_ended answered with ⟨rfl, -, rfl⟩ | ⟨e, rfl, -⟩
    · exact settle hk.capacity_pos haligned hunderway (hunderway.cuts.split_of_ended answered)
    · exact absurd (calm.smooth (.callEnded f.current (.error e)) (by simp)) nofun

end InStep

/-! ## Single events -/

/-- An offer is pushed between two flushes, as the first thing in its step. -/
theorem Core.Step.of_pushed {asked : Bool} {k k' : Core} {left right : List Event} {c : Caller}
    {o : Offer} (h : Core.Step asked k (left ++ .pushed c o :: right) k') :
    left = [] ∧ ∃ at_, k.loop = .idle at_ ∧ at_ ≠ .exited := by
  generalize hes : left ++ .pushed c o :: right = es at h
  have hmem : .pushed c o ∈ es := by
    rw [← hes]
    exact List.mem_append_right _ List.mem_cons_self
  cases h with
  | rest quiet => exact absurd hmem (quiet.not_mem rfl)
  | @push at_ c' o' idle alive =>
    have hsame : [] ++ .pushed c' o' :: [] = left ++ .pushed c o :: right := hes.symm
    obtain ⟨hleft, -⟩ := (List.append_cons_inj_of_notMem (by simp) (by simp)).mp hsame
    exact ⟨hleft.symm, _, idle, alive⟩
  | @fill at_ c' o' f idle alive =>
    have hsame : [] ++ .pushed c' o' :: [.callStarted f.current] =
        left ++ .pushed c o :: right := hes.symm
    obtain ⟨hleft, -⟩ := (List.append_cons_inj_of_notMem (by simp) (by simp)).mp hsame
    exact ⟨hleft.symm, _, idle, alive⟩
  | _ => simp at hmem

/-- Storage is given a batch of a whole chunk, or the event loop is coming to its end. -/
theorem InStep.of_callStarted {asked : Bool} {k k' : Core} {offers : List Offer}
    {batches : List (List Offer)} {es left right : List Event} {batch : List Offer}
    (h : InStep offers batches k)
    (calm : Undisturbed (es ++ (left ++ .callStarted batch :: right)) k'.loop)
    (hstep : Core.Step asked k (left ++ .callStarted batch :: right) k') :
    k.capacity ∣ (offers ++ pushed left).length ∨ k.loop.isEnding = true := by
  generalize hes : left ++ .callStarted batch :: right = new at calm hstep
  have hmem : .callStarted batch ∈ new := by
    rw [← hes]
    exact List.mem_append_right _ List.mem_cons_self
  cases hstep with
  | rest quiet => exact absurd hmem (quiet.not_mem rfl)
  | @fill at_ c o f idle alive last =>
    obtain ⟨full, rfl, haligned, -⟩ := h.of_idle idle alive
    have hsame : [.pushed c o] ++ .callStarted f.current :: [] =
        left ++ .callStarted batch :: right := hes.symm
    obtain ⟨rfl, -⟩ := (List.append_cons_inj_of_notMem (by simp) (by simp)).mp hsame
    left
    show k.capacity ∣ (full ++ k.buffer ++ [o]).length
    rw [List.append_assoc, List.length_append, List.length_append, List.length_singleton, last]
    exact Nat.dvd_add haligned.whole (Nat.dvd_refl _)
  | @flush why at_ after f occasion idle =>
    cases occasion with
    | periodic => exact absurd rfl (calm.underWay f .serving)
    | final =>
      right
      rw [idle]
      rfl
  | @proceed why f g after r busy =>
    obtain ⟨full, chunk, before, rfl, haligned, hunderway, -⟩ := h.of_flushing busy
    have hsame : [.callEnded f.current r] ++ .callStarted g.current :: [] =
        left ++ .callStarted batch :: right := hes.symm
    obtain ⟨rfl, -⟩ := (List.append_cons_inj_of_notMem (by simp) (by simp)).mp hsame
    by_cases hafter : after = .exited
    · right
      rw [busy, hafter]
      rfl
    · left
      show k.capacity ∣ (full ++ chunk ++ []).length
      rw [List.append_nil, List.length_append, hunderway.length_eq hafter]
      exact Nat.dvd_add haligned.whole (Nat.dvd_refl _)
  | _ => simp at hmem

/-! ## Whole runs -/

section

variable {capacity groups : Nat} {ticker : Ticker} {s₀ s : State} {as : List Action}
  {es before later : List Event}

/-- An undisturbed event loop is in step all along. -/
theorem inStep_of_path (h : Path step s₀ as es s) (hnew : new capacity groups ticker = .ok s₀)
    (calm : Undisturbed es s.loop) : InStep (pushed es) (calls es) s.core := by
  have hs₀ := coherent_of_new hnew
  refine core_induction h
    (P := fun es k => Undisturbed es k.loop → InStep (pushed es) (calls es) k) hs₀ ?_ ?_ calm
  · intro _
    obtain ⟨hcapacity, -, rfl⟩ := new_eq_ok hnew
    exact .resting rfl nofun rfl Batch.aligned_nil hcapacity
  · intro asked es k new k' hk ih hstep calm
    exact (ih (calm.of_step hstep)).step hk calm hstep

/-- What was stored are whole chunks, and all the calls there were are their splits; what was pushed
    beyond them does not make another chunk. -/
def CaughtUp (capacity groups : Nat) (es : List Event) : Prop :=
  ∃ rest, pushed es = stored es ++ rest ∧ rest.length < capacity ∧
    Batch.Aligned capacity groups (stored es) (calls es)

/-- Between two flushes all whole chunks are stored. -/
theorem caughtUp_of_path {at_ : Station} (h : Path step s₀ as es s)
    (hnew : new capacity groups ticker = .ok s₀) (calm : Undisturbed es s.loop)
    (idle : s.loop = .idle at_) (alive : at_ ≠ .exited) : CaughtUp capacity groups es := by
  obtain ⟨rfl, rfl⟩ := settings_eq_of_path h hnew
  obtain ⟨full, hfull, haligned, hroom⟩ := (inStep_of_path h hnew calm).of_idle idle alive
  have hbalance := pushed_eq_of_new h hnew
  rw [Core.kept_of_idle idle] at hbalance
  -- What is not in the buffer is stored.
  have hstored : full = stored es := List.append_cancel_right (hfull.symm.trans hbalance)
  rw [hstored] at haligned
  exact ⟨s.buffer, hbalance, hroom, haligned⟩

/-- An offer is pushed only when all whole chunks before it are stored. -/
theorem caughtUp_before_pushed {c : Caller} {o : Offer}
    (h : Path step s₀ as (before ++ .pushed c o :: later) s)
    (hnew : new capacity groups ticker = .ok s₀)
    (calm : Undisturbed (before ++ .pushed c o :: later) s.loop) :
    CaughtUp capacity groups before := by
  cases h.passes with
  | @mk as old u a left right v bs new hither now onward =>
    have hu := coherent_of_path hither (coherent_of_new hnew)
    obtain ⟨rfl, at_, idle, alive⟩ := (hu.core_step now).of_pushed
    have honward := (Path.single now).trans onward
    rw [List.append_nil] at calm ⊢
    exact caughtUp_of_path hither hnew (calm.of_path hu honward) idle alive

/-- Storage is given a batch only when no chunk is incomplete, until closing has begun. -/
theorem whole_before_callStarted {batch : List Offer}
    (h : Path step s₀ as (before ++ .callStarted batch :: later) s)
    (hnew : new capacity groups ticker = .ok s₀)
    (calm : Undisturbed (before ++ .callStarted batch :: later) s.loop) :
    capacity ∣ (pushed before).length ∨ (∃ c, .closeBegan c ∈ before) ∨ DroppedFirst before := by
  cases h.passes with
  | @mk as old u a left right v bs new hither now onward =>
    have hu := coherent_of_path hither (coherent_of_new hnew)
    have hv := hu.step now
    have hpath : old ++ left ++ .callStarted batch :: (right ++ new) =
        old ++ (left ++ .callStarted batch :: right) ++ new := by simp
    rw [hpath] at calm
    have hnow := calm.of_path hv onward
    have hstep := hu.core_step now
    obtain ⟨rfl, rfl⟩ := settings_eq_of_path hither hnew
    rcases (inStep_of_path hither hnew (hnow.of_step hstep)).of_callStarted hnow hstep with
      whole | ending
    · left
      rw [pushed_append]
      exact whole
    · right
      rcases closeBegan_of_shutdown hither hnew ((behind_of_path hither hnew).ending ending) with
        ⟨c, hc⟩ | hdropped
      · exact Or.inl ⟨c, List.mem_append_left _ hc⟩
      · exact Or.inr (hdropped.append left)

/-- In every run of a saver that was initialized, whichever callers save in whatever order, as long
    as storage takes every batch and no flush is made at a tick: once a call to close has returned,
    the calls to storage are the splits of the consecutive chunks of as many offers as the capacity,
    in that order. Whenever an offer is pushed, the calls for all whole chunks before it have been
    made, no others, and their batches are stored. Until closing has begun, be it by a call or by
    the saver being dropped, no call is made while a chunk is incomplete. -/
theorem calls_are_split_chunks (hnew : new capacity groups ticker = .ok s₀)
    (h : Path step s₀ as es s) (hinit : .initialized (.ok ()) ∈ es)
    (calm : Undisturbed es s.loop) :
    (∀ c, .closeReturned c ∈ es → Batch.splitEach capacity groups (pushed es) = .ok (calls es)) ∧
      (∀ before c o later, es = before ++ .pushed c o :: later → CaughtUp capacity groups before) ∧
      ∀ before batch later, es = before ++ .callStarted batch :: later →
        capacity ∣ (pushed before).length ∨ (∃ c, .closeBegan c ∈ before) ∨
          DroppedFirst before := by
  refine ⟨?_, ?_, ?_⟩
  · intro c hc
    obtain ⟨rfl, rfl⟩ := settings_eq_of_path h hnew
    exact (inStep_of_path h hnew calm).of_exited (exited_of_closeReturned h hnew hinit hc)
  · rintro before c o later rfl
    exact caughtUp_before_pushed h hnew calm
  · rintro before batch later rfl
    exact whole_before_callStarted h hnew calm

end

/-- Five offers with room for three: the third one sets off the flush of a whole chunk, and closing
    that of the two others. -/
theorem calls_are_split_chunks_five_offers :
    let s₀ : State := { capacity := 3, groups := 2, ticker := { period := .millis 1000 } }
    let offer (n : UInt64) : Offer := .fresh n 1 1
    let as : List Action := [.init, .save 0 (offer 1), .loop, .save 1 (offer 2), .loop,
      .save 2 (offer 3), .loop, .save 3 (offer 4), .answer (.ok ()), .answer (.ok ()), .loop,
      .save 4 (offer 5), .loop, .beginClose 5, .loop, .loop, .answer (.ok ()), .answer (.ok ()),
      .resumeClose 5, .ticker 0, .ticker 1, .resumeClose 5]
    new 3 2 { period := .millis 1000 } = .ok s₀ ∧
      ∃ es s, Path step s₀ as es s ∧ .initialized (.ok ()) ∈ es ∧ Undisturbed es s.loop ∧
        .closeReturned 5 ∈ es ∧
        calls es = [[offer 1, offer 2], [offer 3], [offer 4], [offer 5]] ∧
        Batch.splitEach 3 2 (pushed es) = .ok (calls es) := by
  intro s₀ offer as
  have hnew : new 3 2 { period := .millis 1000 } = .ok s₀ := rfl
  have hend : (follow step s₀ as).map (fun m => (calls m.2, m.1.loop,
      decide (.initialized (.ok ()) ∈ m.2), decide (.closeReturned 5 ∈ m.2),
      m.2.all fun e => !e.isDisturbance)) =
      some ([[offer 1, offer 2], [offer 3], [offer 4], [offer 5]], .idle .exited, true, true,
        true) := by
    decide +kernel
  obtain ⟨⟨s, es⟩, hfollow, hm⟩ := Option.map_eq_some_iff.mp hend
  simp only [Prod.mk.injEq, decide_eq_true_eq, List.all_eq_true, Bool.not_eq_true'] at hm
  obtain ⟨hcalls, hloop, hinit, hclosed, hsmooth⟩ := hm
  have hrun := path_of_follow hfollow
  have calm : Undisturbed es s.loop := by
    refine ⟨hsmooth, fun f after busy => ?_⟩
    rw [hloop] at busy
    cases busy
  exact ⟨hnew, es, s, hrun, hinit, calm, hclosed, hcalls,
    (calls_are_split_chunks hnew hrun hinit calm).1 5 hclosed⟩

end OfferService.Saver
