import OfferService.Proofs.Saver.Barrier
import OfferService.Proofs.Saver.Tally
import OfferService.Saver.Session

/-
  OfferService.Proofs.Saver.Counters

  What the counters tell of flushes. The number of retained offers is overwritten by each flush that
  is told, and a flush of an empty buffer is not told; so what carries the proof is that between two
  flushes the buffer only grows, and that it is empty where a flush is left out. A flush fails when
  a call to storage does, and then it ends at once, so failed flushes are failed calls.
-/
namespace OfferService.Saver

/-! ## Failed calls -/

/-- The batch that storage has refused. -/
def Event.failure : Event → List (List Offer)
  | .callEnded batch (.error _) => [batch]
  | _ => []

/-- The batches that storage has refused, in the order of their calls. -/
def failures (es : List Event) : List (List Offer) := es.flatMap Event.failure

@[simp] theorem failures_append (es fs : List Event) :
    failures (es ++ fs) = failures es ++ failures fs := List.flatMap_append

@[simp] theorem failures_arrivalEvents (at_ : Station) (left : Nat) :
    failures (arrivalEvents at_ left) = [] := by
  unfold arrivalEvents
  split <;> rfl

theorem Quiet.failures_eq_nil {es : List Event} (h : Quiet es) : failures es = [] :=
  flatMap_eq_nil_of_forall h fun e he => by cases e <;> first | rfl | cases he

/-- How many offers the last flush has left in the buffer; none before the first flush. -/
def lastLeft (es : List Event) : Nat := (flushes es).getLast?.elim 0 (·.remaining.length)

theorem lastLeft_append {es fs : List Event} (h : flushes fs = []) :
    lastLeft (es ++ fs) = lastLeft es := by
  rw [lastLeft, flushes_append, h, List.append_nil]
  rfl

theorem lastLeft_append_singleton {es fs : List Event} {o : Batch.Outcome Offer}
    (h : flushes fs = [o]) : lastLeft (es ++ fs) = o.remaining.length := by
  rw [lastLeft, flushes_append, h, List.getLast?_concat]
  rfl

theorem countAll_append (m : Metrics) (es fs : List Event) :
    countAll m (es ++ fs) = countAll (countAll m es) fs := List.foldl_append

/-! ## One step -/

/-- What a step has to do with flushes: none ends, no call fails and the buffer does not become
    shorter between flushes, or one flush ends, is counted, and leaves the buffer behind. -/
inductive Core.Counts (k : Core) (es : List Event) (k' : Core) : Prop
  | nothing (noFlush : flushes es = []) (noFailure : failures es = [])
      (calm : k'.loop.flush? = none → k.loop.flush? = none)
      (grows : k'.loop.flush? = none → k.buffer.length ≤ k'.buffer.length)
  | flush {o} (one : flushes es = [o]) (left : k'.buffer = o.remaining)
      (counted : ∀ m, countAll m es = m.onFlush o.stored o.remaining.length)
      (failed : (failures es).length = if 0 < o.remaining.length then 1 else 0)

/-- A flush of something is told when it ends. -/
theorem countAll_of_settle {why : Reason} {batch : List Offer} {r : Except Storage.Error Unit}
    {o : Batch.Outcome Offer} (total : 0 < o.total) (after : Station) (m : Metrics) :
    countAll m (.callEnded batch r :: .flushEnded why o :: arrivalEvents after o.remaining.length) =
      m.onFlush o.stored o.remaining.length := by
  have hreport : o.report = some (o.stored, o.remaining.length) := by
    unfold Batch.Outcome.report
    rw [if_neg]
    intro nothing
    omega
  have hcount : (Event.flushEnded why o).count m = m.onFlush o.stored o.remaining.length := by
    unfold Event.count
    simp only [hreport]
  show countAll ((Event.flushEnded why o).count m) (arrivalEvents after o.remaining.length) = _
  rw [hcount, countAll_of_flushes_eq_nil _ (flushes_arrivalEvents _ _)]

theorem Core.Step.counts {asked : Bool} {k k' : Core} {es : List Event} (hk : k.Sound)
    (h : Core.Step asked k es k') : Core.Counts k es k' := by
  cases h with
  | rest quiet =>
    exact .nothing quiet.flushes_eq_nil quiet.failures_eq_nil id fun _ => Nat.le_refl _
  | wake absent =>
    exact .nothing rfl rfl (fun _ => by rw [absent]; rfl) fun _ => Nat.le_refl _
  | drain idle => exact .nothing rfl rfl (fun _ => by rw [idle]; rfl) fun _ => Nat.le_refl _
  | refuse => exact .nothing rfl rfl id fun _ => Nat.le_refl _
  | push =>
    refine .nothing rfl rfl id fun _ => ?_
    rw [List.length_append]
    exact Nat.le_add_right _ _
  | fill => exact .nothing rfl rfl nofun nofun
  | flush => exact .nothing rfl rfl nofun nofun
  | leave idle => exact .nothing rfl rfl (fun _ => by rw [idle]; rfl) fun _ => Nat.le_refl _
  | @proceed why f g after r busy answered =>
    -- A flush goes on only if the call has not failed.
    obtain ⟨rfl, -⟩ := Batch.Flush.answer_waiting answered
    exact .nothing rfl rfl nofun nofun
  | @settle why f after r o busy answered =>
    obtain ⟨-, items, hcut, -⟩ := hk.busy_of_flushing busy
    have hne := hcut.current_ne_nil
    have hcurrent : 0 < f.unstored.length := by
      rw [Batch.Flush.unstored, List.length_append]
      exact Nat.add_pos_left (List.length_pos_iff.mpr hne) _
    have htotal : 0 < f.total := by
      have hlength := congrArg List.length hcut.stored_append_unstored
      rw [List.length_append] at hlength
      rw [hcut.total_eq]
      omega
    have hone : flushes (.callEnded f.current r :: .flushEnded why o ::
        arrivalEvents after o.remaining.length) = [o] := by
      show o :: flushes (arrivalEvents after o.remaining.length) = [o]
      rw [flushes_arrivalEvents]
    rcases Batch.Flush.answer_ended answered with ⟨rfl, -, rfl⟩ | ⟨e, rfl, rfl⟩
    · refine .flush hone rfl (countAll_of_settle htotal after) ?_
      show (failures (arrivalEvents after 0)).length = 0
      rw [failures_arrivalEvents]
      rfl
    · -- The batch that was refused is left, so the flush has failed too.
      refine .flush hone rfl (countAll_of_settle htotal after) ?_
      show (f.current :: failures (arrivalEvents after f.unstored.length)).length = _
      rw [failures_arrivalEvents, if_pos hcurrent]
      rfl

/-! ## Whole runs -/

/-- What the counters tell of the flushes of a run that has come to a core. -/
structure Gauged (es : List Event) (k : Core) : Prop where
  failures : (countAll {} es).flushFailures = UInt64.ofNat (failures es).length
  retained : (countAll {} es).retainedOffers = UInt64.ofNat (lastLeft es)
  lastLeft_le : k.loop.flush? = none → lastLeft es ≤ k.buffer.length
  exited : k.loop = .idle .exited → lastLeft es = k.buffer.length

theorem Gauged.step {asked : Bool} {k k' : Core} {es new : List Event} (h : Gauged es k)
    (hk : k.Sound) (hstep : Core.Step asked k new k') : Gauged (es ++ new) k' := by
  cases hstep.counts hk with
  | nothing noFlush noFailure calm grows =>
    have hleft : lastLeft (es ++ new) = lastLeft es := lastLeft_append noFlush
    have hcount : countAll {} (es ++ new) = countAll {} es := by
      rw [countAll_append, countAll_of_flushes_eq_nil _ noFlush]
    have hle : k'.loop.flush? = none → lastLeft (es ++ new) ≤ k'.buffer.length := by
      intro hcalm
      rw [hleft]
      exact Nat.le_trans (h.lastLeft_le (calm hcalm)) (grows hcalm)
    refine ⟨?_, ?_, hle, ?_⟩
    · rw [hcount, failures_append, noFailure, List.append_nil]
      exact h.failures
    · rw [hcount, hleft]
      exact h.retained
    · intro exited'
      rcases hstep.of_exited exited' with ⟨exited, hsame⟩ | ⟨-, hempty⟩ |
        ⟨why, f, r, o, -, -, -, rfl⟩
      · rw [hleft, hsame]
        exact h.exited exited
      · -- The event loop exits with nothing to flush, so the last flush has left nothing.
        have hzero := hle (by rw [exited']; rfl)
        rw [hempty] at hzero ⊢
        exact Nat.le_zero.mp hzero
      · cases noFlush
  | @flush o one left counted failed =>
    have hleft : lastLeft (es ++ new) = o.remaining.length := lastLeft_append_singleton one
    have hcount : countAll {} (es ++ new) =
        (countAll {} es).onFlush o.stored o.remaining.length := by
      rw [countAll_append, counted]
    refine ⟨?_, ?_, ?_, ?_⟩
    · rw [hcount, failures_append, List.length_append, failed, UInt64.ofNat_add, ← h.failures]
      unfold Metrics.onFlush
      split
      · rfl
      · exact (UInt64.add_zero _).symm
    · rw [hcount, hleft]
      rfl
    · intro _
      exact Nat.le_of_eq (hleft.trans (congrArg List.length left).symm)
    · intro _
      rw [hleft, left]

section

variable {capacity groups : Nat} {ticker : Ticker} {s₀ s : State} {as : List Action}
  {es : List Event}

theorem gauged_of_path (h : Path step s₀ as es s) (hnew : new capacity groups ticker = .ok s₀) :
    Gauged es s.core := by
  refine core_induction h (P := Gauged) (coherent_of_new hnew) ?_ ?_
  · obtain ⟨-, -, rfl⟩ := new_eq_ok hnew
    exact ⟨rfl, rfl, fun _ => Nat.le_refl _, nofun⟩
  · intro asked es k new k' hk ih hstep
    exact ih.step hk hstep

/-- The counters `m` tell what has become of the offers of a saver. They have 64 bits and start
    again from zero when they run over. -/
structure Metered (es : List Event) (s : State) (m : Metrics) : Prop where
  flushed : m.flushedOffers = UInt64.ofNat (stored es).length
  failures : m.flushFailures = UInt64.ofNat (failures es).length
  retained : m.retainedOffers = UInt64.ofNat (lastLeft es)
  lastLeft_le : lastLeft es ≤ s.buffer.length
  /-- What is retained does not run over if the capacity has 64 bits. -/
  exact : s.capacity < UInt64.size → m.retainedOffers.toNat = lastLeft es
  exited : s.loop = .idle .exited → lastLeft es = s.shown ∧
    (pushed es).length = (stored es).length + lastLeft es ∧
    UInt64.ofNat (pushed es).length = m.flushedOffers + m.retainedOffers

/-- In every run of a saver, whoever moves when and whichever calls to storage fail, the counters
    tell between two flushes how many offers were stored, how many calls have failed, and how many
    offers the last flush has left, all of which are still in the buffer. Once the event loop has
    exited, that is what is shown, and each offer that was pushed was flushed or is retained. -/
theorem counters_track_saver (hnew : new capacity groups ticker = .ok s₀)
    (h : Path step s₀ as es s) (calm : s.loop.flush? = none) : Metered es s (countAll {} es) := by
  have hgauged := gauged_of_path h hnew
  obtain ⟨hle, hshown⟩ := (coherent_of_path h (coherent_of_new hnew)).sound.calm calm
  have hleft := hgauged.lastLeft_le calm
  have htally : tally es = (stored es).length := by
    rw [stored_length_of_path h hnew, underway_of_calm calm]
    rfl
  have hflushed : (countAll {} es).flushedOffers = UInt64.ofNat (stored es).length := by
    obtain ⟨_, _, hcount⟩ := flushed_countAll {} es
    rw [hcount, htally]
    exact UInt64.zero_add _
  refine ⟨hflushed, hgauged.failures, hgauged.retained, hleft, ?_, ?_⟩
  · intro word
    rw [hgauged.retained]
    exact UInt64.toNat_ofNat_of_lt' (Nat.lt_of_le_of_lt (Nat.le_trans hleft hle) word)
  · intro exited
    have hexited := hgauged.exited exited
    have hpushed : (pushed es).length = (stored es).length + lastLeft es := by
      rw [hexited, pushed_eq_of_new h hnew, Core.kept_of_idle exited, List.length_append]
    refine ⟨hexited.trans hshown.symm, hpushed, ?_⟩
    rw [hpushed, hflushed, hgauged.retained, UInt64.ofNat_add]

end

/-- A flush whose second batch is refused, another offer, and a last flush that fails: three calls
    have failed, and two of the three offers are retained. -/
theorem counters_track_saver_last_flush_refused :
    let s₀ : State := { capacity := 2, groups := 2, ticker := { period := .millis 1000 } }
    let offer (n : UInt64) : Offer := .fresh n 1 1
    let as : List Action := [.init, .save 0 (offer 1), .loop, .save 1 (offer 2), .loop,
      .answer (.ok ()), .answer (.error .zeroPageSize), .save 2 (offer 3), .beginClose 3, .loop,
      .loop, .answer (.error .zeroPageSize), .loop, .answer (.error .zeroPageSize)]
    new 2 2 { period := .millis 1000 } = .ok s₀ ∧
      ∃ es s, Path step s₀ as es s ∧ s.loop = .idle .exited ∧ s.shown = 2 ∧
        (countAll {} es).toList = [0, 0, 0, 0, 1, 3, 2] ∧ Metered es s (countAll {} es) := by
  intro s₀ offer as
  have hnew : new 2 2 { period := .millis 1000 } = .ok s₀ := rfl
  have hend : (follow step s₀ as).map (fun m => (m.1.loop, m.1.shown, (countAll {} m.2).toList)) =
      some (.idle .exited, 2, [0, 0, 0, 0, 1, 3, 2]) := by
    decide +kernel
  obtain ⟨⟨s, es⟩, hfollow, hm⟩ := Option.map_eq_some_iff.mp hend
  simp only [Prod.mk.injEq] at hm
  obtain ⟨exited, hshown, hcounters⟩ := hm
  have hrun := path_of_follow hfollow
  have calm : s.loop.flush? = none := by rw [exited]; rfl
  exact ⟨hnew, es, s, hrun, exited, hshown, hcounters, counters_track_saver hnew hrun calm⟩

/-! ## Sessions -/

namespace World

theorem note_eq (now : Nat) (w : World) (e : Event) :
    (w.note now e).saver = w.saver ∧ (w.note now e).metrics = e.count w.metrics := by
  cases e <;> exact ⟨rfl, rfl⟩

theorem after_eq (now : Nat) (w : World) (m : Moved) :
    (w.after now m).saver = m.1 ∧ (w.after now m).metrics = countAll w.metrics m.2 := by
  obtain ⟨s, es⟩ := m
  unfold after
  simp only []
  generalize hw : ({ w with saver := s } : World) = v
  have hsaver : v.saver = s := by rw [← hw]
  have hmetrics : v.metrics = w.metrics := by rw [← hw]
  rw [← hsaver, ← hmetrics]
  clear hw hsaver hmetrics
  induction es generalizing v with
  | nil => exact ⟨rfl, rfl⟩
  | cons e es ih =>
    obtain ⟨hsaver, hmetrics⟩ := v.note_eq now e
    obtain ⟨hsaver', hmetrics'⟩ := ih (v.note now e)
    rw [hmetrics] at hmetrics'
    exact ⟨hsaver'.trans hsaver, hmetrics'⟩

/-- The counters of a session are those of a run of its saver. -/
def Follows (s₀ : State) (w : World) : Prop :=
  ∃ as es, Path step s₀ as es w.saver ∧ w.metrics = countAll {} es

theorem Follows.after {s₀ : State} {now : Nat} {w : World} {a : Action} {m : Moved}
    (h : w.Follows s₀) (hstep : step w.saver a = some m) : (w.after now m).Follows s₀ := by
  obtain ⟨as, es, hrun, hmetrics⟩ := h
  obtain ⟨hsaver, hcount⟩ := w.after_eq now m
  refine ⟨as ++ [a], es ++ m.2, ?_, ?_⟩
  · rw [hsaver]
    exact hrun.tail hstep
  · rw [hcount, hmetrics, countAll_append]

/-- Whatever is done to the saver of a session, its counters go along. -/
theorem Follows.act? {s₀ : State} {now : Nat} {w w' : World} {a : Action} (h : w.Follows s₀)
    (hact : w.act? now a = some w') : w'.Follows s₀ := by
  obtain ⟨m, hstep, rfl⟩ := Option.map_eq_some_iff.mp hact
  have hafter : (w.after now m).Follows s₀ := h.after hstep
  unfold settleDrop
  split
  · exact Follows.after (a := .drop) hafter rfl
  · exact hafter

end World

end OfferService.Saver
