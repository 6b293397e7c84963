import OfferService.Proofs.Saver.Core

/-
  OfferService.Proofs.Saver.Conservation

  No offer is lost, stored twice or moved before another: in every state of a run, what the event
  loop has pushed is what was stored, then what the flush under way has not stored yet, then what
  is in the buffer. The step law holds in the middle of a flush too, so it does not matter which
  batches fail or where a later flush cuts what an earlier one left behind.
-/
namespace OfferService.Saver

/-! ## One step -/

/-- The offers that the event loop has: those of the flush under way, then the buffer. -/
def Core.kept (k : Core) : List Offer := k.loop.unstored ++ k.buffer

theorem Core.kept_of_calm {k : Core} (calm : k.loop.flush? = none) : k.kept = k.buffer := by
  unfold kept
  cases hloop : k.loop with
  | flushing => rw [hloop] at calm; cases calm
  | _ => rfl

theorem Core.kept_of_idle {k : Core} {at_ : Station} (idle : k.loop = .idle at_) :
    k.kept = k.buffer := kept_of_calm (by rw [idle]; rfl)

theorem Core.kept_of_flushing {k : Core} {why : Reason} {f : Batch.Flush Offer} {after : Station}
    (hk : k.Sound) (busy : k.loop = .flushing why f after) : k.kept = f.unstored := by
  obtain ⟨hbuffer, -⟩ := hk.busy_of_flushing busy
  rw [kept, busy, hbuffer, List.append_nil]
  rfl

@[simp] theorem pushed_arrivalEvents (at_ : Station) (left : Nat) :
    pushed (arrivalEvents at_ left) = [] := by
  unfold arrivalEvents
  split <;> rfl

@[simp] theorem stored_arrivalEvents (at_ : Station) (left : Nat) :
    stored (arrivalEvents at_ left) = [] := by
  unfold arrivalEvents
  split <;> rfl

/-- What the event loop had and what it pushes is what gets stored and what it has afterwards. -/
theorem Core.Step.balance {asked : Bool} {k k' : Core} {es : List Event} (hk : k.Sound)
    (h : Core.Step asked k es k') : k.kept ++ pushed es = stored es ++ k'.kept := by
  cases h with
  | rest quiet => rw [quiet.pushed_eq_nil, quiet.stored_eq_nil, List.append_nil]; rfl
  | wake absent =>
    rw [kept, absent]
    exact List.append_nil _
  | drain idle => rw [kept_of_idle idle]; exact List.append_nil _
  | refuse => exact List.append_nil _
  | @push at_ c o idle =>
    rw [kept_of_idle idle, kept_of_idle (k := { k with
      buffer := k.buffer ++ [o], shown := k.buffer.length + 1 }) idle]
    rfl
  | @fill at_ c o f idle alive last cut whole =>
    rw [kept_of_idle idle]
    show k.buffer ++ [o] = f.unstored ++ []
    rw [whole, List.append_nil]
  | @flush why at_ after f occasion idle cut whole =>
    rw [kept_of_idle idle]
    show k.buffer ++ [] = f.unstored ++ []
    rw [whole]
  | leave idle => rw [kept_of_idle idle]; exact List.append_nil _
  | @proceed why f g after r busy answered =>
    -- The batch that was stored is the first of what the flush had.
    obtain ⟨rfl, hunstored⟩ := Batch.Flush.answer_waiting answered
    rw [kept_of_flushing hk busy, hunstored]
    show f.current ++ g.unstored ++ [] = f.current ++ [] ++ (g.unstored ++ k.buffer)
    rw [(hk.busy_of_flushing busy).1, List.append_nil, List.append_nil, List.append_nil]
  | @settle why f after r o busy answered =>
    rw [kept_of_flushing hk busy]
    -- Either the last batch is stored and nothing is left, or all that is left comes back.
    rcases Batch.Flush.answer_ended answered with ⟨rfl, hunstored, rfl⟩ | ⟨e, rfl, rfl⟩
    · rw [hunstored]
      show f.current ++ pushed (arrivalEvents after 0) =
        f.current ++ stored (arrivalEvents after 0) ++ []
      rw [pushed_arrivalEvents, stored_arrivalEvents, List.append_nil, List.append_nil]
    · show f.unstored ++ pushed (arrivalEvents after f.unstored.length) =
        stored (arrivalEvents after f.unstored.length) ++ f.unstored
      rw [pushed_arrivalEvents, stored_arrivalEvents, List.append_nil, List.nil_append]

/-! ## Whole runs -/

/-- In a run, what was pushed is what was stored and what the event loop has. -/
theorem pushed_eq_of_path {s t : State} {as : List Action} {es : List Event}
    (h : Path step s as es t) (hs : s.Coherent) :
    s.core.kept ++ pushed es = stored es ++ t.core.kept := by
  refine core_induction h (P := fun es k => s.core.kept ++ pushed es = stored es ++ k.kept) hs
    (List.append_nil _) ?_
  intro asked es k new k' hk ih hstep
  calc s.core.kept ++ pushed (es ++ new)
      = s.core.kept ++ pushed es ++ pushed new := by rw [pushed_append, List.append_assoc]
    _ = stored es ++ (k.kept ++ pushed new) := by rw [ih, List.append_assoc]
    _ = stored es ++ stored new ++ k'.kept := by rw [hstep.balance hk, List.append_assoc]
    _ = stored (es ++ new) ++ k'.kept := by rw [stored_append]

/-- From a new saver on, what was pushed is what was stored and what the event loop has. -/
theorem pushed_eq_of_new {capacity groups : Nat} {ticker : Ticker} {s₀ s : State}
    {as : List Action} {es : List Event} (h : Path step s₀ as es s)
    (hnew : new capacity groups ticker = .ok s₀) : pushed es = stored es ++ s.core.kept := by
  have hkept : s₀.core.kept = [] := by
    obtain ⟨-, -, rfl⟩ := new_eq_ok hnew
    rfl
  have hpushed := pushed_eq_of_path h (coherent_of_new hnew)
  rw [hkept, List.nil_append] at hpushed
  exact hpushed

/-- When the event loop says how much it leaves behind, it has exited and tells the truth. -/
theorem exited_of_mem {s t : State} {as : List Action} {es : List Event} {left : Nat}
    (h : Path step s as es t) (hs : s.Coherent) (hleft : .exited left ∈ es) :
    t.loop = .idle .exited ∧ t.buffer.length = left := by
  refine core_induction h
    (P := fun es k => .exited left ∈ es → k.loop = .idle .exited ∧ k.buffer.length = left) hs
    nofun ?_ hleft
  intro asked es k new k' hk ih hstep hmem
  rcases List.mem_append.mp hmem with hold | hnew
  · obtain ⟨hloop, hlength⟩ := ih hold
    rw [(hstep.eq_of_exited hloop).1]
    exact ⟨hloop, hlength⟩
  · -- The event loop exits with nothing to flush, or at the end of its last flush.
    cases hstep with
    | rest quiet => exact absurd hnew (quiet.not_mem rfl)
    | leave idle empty =>
      cases List.mem_singleton.mp hnew
      exact ⟨rfl, by rw [empty]; rfl⟩
    | @settle why f after r o busy answered =>
      simp only [List.mem_cons, reduceCtorEq, false_or, mem_arrivalEvents] at hnew
      obtain ⟨rfl, hleft⟩ := hnew
      cases hleft
      exact ⟨rfl, rfl⟩
    | _ => simp at hnew

/-- Of a saver that was built with any capacity, any number of groups and any ticker, in every state
    that it can come to: what was pushed is what was stored, in the order of the calls, then what
    the flush under way has not stored, then the buffer. After the event loop has exited the buffer
    is what was left unstored, it is as long as the event loop said, and stays so. -/
theorem pushed_eq_stored_append_kept {capacity groups : Nat} {ticker : Ticker} {s₀ s : State}
    {as : List Action} {es : List Event} (hnew : new capacity groups ticker = .ok s₀)
    (h : Path step s₀ as es s) :
    pushed es = stored es ++ s.loop.unstored ++ s.buffer ∧
      (s.loop = .idle .exited →
        pushed es = stored es ++ s.buffer ∧
          ∀ bs fs t, Path step s bs fs t → t.buffer = s.buffer ∧ pushed fs = [] ∧ stored fs = []) ∧
      ∀ left, .exited left ∈ es → s.loop = .idle .exited ∧ s.buffer.length = left := by
  have hs₀ := coherent_of_new hnew
  have hs := coherent_of_path h hs₀
  have heq : pushed es = stored es ++ s.loop.unstored ++ s.buffer := by
    rw [pushed_eq_of_new h hnew, List.append_assoc]
    rfl
  refine ⟨heq, ?_, fun left hleft => exited_of_mem h hs₀ hleft⟩
  intro exited
  refine ⟨?_, ?_⟩
  · rw [exited] at heq
    rw [heq]
    exact congrArg (· ++ s.buffer) (List.append_nil _)
  · -- Nothing touches the core of a saver whose event loop has exited.
    intro bs fs t hlater
    obtain ⟨hcore, hquiet⟩ := core_eq_of_exited hlater hs exited
    exact ⟨congrArg Core.buffer hcore, hquiet.pushed_eq_nil, hquiet.stored_eq_nil⟩

/-- A flush whose second batch is refused, then a third offer, and the end: what is left is what
    was pushed and not stored. -/
theorem pushed_eq_stored_append_kept_second_batch_refused :
    let s₀ : State := { capacity := 2, groups := 2, ticker := { period := .millis 1000 } }
    let offer (n : UInt64) : Offer := .fresh n 1 1
    let as : List Action := [.init, .save 0 (offer 1), .loop, .save 1 (offer 2), .loop,
      .answer (.ok ()), .answer (.error .zeroPageSize), .save 2 (offer 3), .beginClose 3, .loop,
      .loop, .answer (.error .zeroPageSize), .loop, .answer (.error .zeroPageSize)]
    new 2 2 { period := .millis 1000 } = .ok s₀ ∧
      ∃ es s, Path step s₀ as es s ∧ stored es = [offer 1] ∧ s.buffer = [offer 2, offer 3] ∧
        s.loop = .idle .exited ∧ pushed es = stored es ++ s.loop.unstored ++ s.buffer := by
  intro s₀ offer as
  have hnew : new 2 2 { period := .millis 1000 } = .ok s₀ := rfl
  have hend : (follow step s₀ as).map (fun m => (stored m.2, m.1.buffer, m.1.loop)) =
      some ([offer 1], [offer 2, offer 3], .idle .exited) := by
    decide +kernel
  obtain ⟨⟨s, es⟩, hfollow, hm⟩ := Option.map_eq_some_iff.mp hend
  simp only [Prod.mk.injEq] at hm
  obtain ⟨hstored, hbuffer, hloop⟩ := hm
  have hrun := path_of_follow hfollow
  exact ⟨hnew, es, s, hrun, hstored, hbuffer, hloop, (pushed_eq_stored_append_kept hnew hrun).1⟩

end OfferService.Saver
