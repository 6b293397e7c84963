import OfferService.Proofs.Saver.Bounds
import OfferService.Proofs.Saver.Replies
import OfferService.Proofs.Storage.Range

/-
  OfferService.Proofs.Saver.Blockage

  Offers that storage never takes. A flush ends at the first batch that is refused, and what it
  leaves is cut anew. So a bad offer among the first comes back to the front after every flush;
  offers that come later make batches longer and never shorter, so it does not leave the first batch
  either. Nothing behind it is ever given to storage.

  `Core.Stuck` is kept by every step, in the middle of a flush too: storage has a batch with a bad
  offer then.
-/
namespace OfferService.Saver

variable {Bad : Offer → Prop} {asked : Bool} {k k' : Core} {es fs new : List Event}

/-! ## Storage that refuses bad offers -/

/-- Storage has refused each batch with a bad offer; what it did with others is left open. -/
def Rejects (Bad : Offer → Prop) (es : List Event) : Prop :=
  ∀ batch r, .callEnded batch r ∈ es → (∃ o ∈ batch, Bad o) → ∃ e, r = .error e

/-- In other words, storage has taken no bad offer. -/
theorem rejects_iff : Rejects Bad es ↔ ∀ o ∈ stored es, ¬ Bad o := by
  constructor
  · intro h o ho hbad
    obtain ⟨e, he, ho⟩ := List.mem_flatMap.mp ho
    cases e with
    | callEnded batch r =>
      rcases r with e | ⟨⟩
      · cases ho
      · obtain ⟨e, hr⟩ := h batch _ he ⟨o, ho, hbad⟩
        cases hr
    | _ => cases ho
  · rintro h batch r hmem ⟨o, ho, hbad⟩
    rcases r with e | ⟨⟩
    · exact ⟨e, rfl⟩
    · exact absurd hbad (h o (List.mem_flatMap.mpr ⟨_, hmem, ho⟩))

theorem rejects_append : Rejects Bad (es ++ fs) ↔ Rejects Bad es ∧ Rejects Bad fs := by
  simp only [rejects_iff, stored_append, List.mem_append, or_imp, forall_and]

/-- Storage has answered each batch with what some store made of it, or else with an error. -/
def Persisted (es : List Event) : Prop :=
  ∀ batch r, .callEnded batch r ∈ es →
    (∃ store, r = ((Storage.Store.createAll batch).on store).1.map fun _ => ()) ∨ ∃ e, r = .error e

/-- The bad offers of a store are those that columns cannot hold. -/
theorem Persisted.rejects (h : Persisted es) : Rejects (fun o => ¬ Storage.Storable o) es := by
  rintro batch r hmem ⟨o, ho, hbad⟩
  rcases h batch r hmem with ⟨store, rfl⟩ | failed
  · obtain ⟨e, he⟩ := Storage.Store.createAll_refuses ho hbad store
    rw [he]
    exact ⟨e, rfl⟩
  · exact failed

/-- No call to storage has succeeded. -/
def Fruitless (es : List Event) : Prop := ∀ batch, .callEnded batch (.ok ()) ∉ es

theorem Fruitless.append (h : Fruitless es) (h' : Fruitless fs) : Fruitless (es ++ fs) := by
  intro batch hmem
  rcases List.mem_append.mp hmem with hold | hnew
  · exact h batch hold
  · exact h' batch hnew

theorem Fruitless.stored_eq_nil (h : Fruitless es) : stored es = [] := by
  apply List.flatMap_eq_nil_iff.mpr
  intro e he
  cases e with
  | callEnded batch r =>
    rcases r with e | ⟨⟩
    · rfl
    · exact absurd he (h batch)
  | _ => rfl

/-! ## One step -/

/-- The batch that storage answers is that of the flush under way. -/
theorem Core.Step.flush?_of_callEnded {batch : List Offer} {r : Except Storage.Error Unit}
    (h : Core.Step asked k new k') (hmem : .callEnded batch r ∈ new) :
    ∃ f, k.loop.flush? = some f ∧ f.current = batch := by
  cases h with
  | rest quiet => exact absurd hmem (quiet.not_mem rfl)
  | @proceed why f g after r' busy =>
    have hbatch : batch = f.current ∧ r = r' := by simpa using hmem
    exact ⟨f, by rw [busy]; rfl, hbatch.1.symm⟩
  | @settle why f after r' o busy =>
    have hbatch : batch = f.current ∧ r = r' := by simpa using hmem
    exact ⟨f, by rw [busy]; rfl, hbatch.1.symm⟩
  | _ => simp at hmem

/-- A bad offer is in the first batch that the offers of the event loop are cut into, and in the
    batch that storage has, if it has one. -/
structure Core.Stuck (Bad : Offer → Prop) (k : Core) : Prop where
  first : ∃ o ∈ Batch.head k.kept k.groups, Bad o
  current : ∀ f, k.loop.flush? = some f → ∃ o ∈ f.current, Bad o

/-- Storage succeeds with nothing, the event loop keeps what it has and what it pushes, and is
    stuck still. -/
theorem Core.Stuck.step (h : k.Stuck Bad) (hk : k.Sound) (hstep : Core.Step asked k new k')
    (rejects : Rejects Bad new) :
    k'.Stuck Bad ∧ Fruitless new ∧ k'.kept = k.kept ++ pushed new := by
  have hnone : Fruitless new := by
    intro batch hmem
    obtain ⟨f, hf, rfl⟩ := hstep.flush?_of_callEnded hmem
    obtain ⟨e, he⟩ := rejects _ _ hmem (h.current f hf)
    cases he
  have hkept : k'.kept = k.kept ++ pushed new := by
    have hbalance := hstep.balance hk
    rw [hnone.stored_eq_nil, List.nil_append] at hbalance
    exact hbalance.symm
  have hfirst : ∃ o ∈ Batch.head k'.kept k'.groups, Bad o := by
    obtain ⟨o, ho, hbad⟩ := h.first
    rw [hkept, hstep.groups_eq]
    exact ⟨o, Batch.mem_head_append ho _, hbad⟩
  -- A flush that begins now gives storage the first batch of all that the event loop has.
  have hbegins : ∀ f : Batch.Flush Offer, f.Cuts k'.kept k'.groups → f.unstored = k'.kept →
      ∃ o ∈ f.current, Bad o := by
    intro f cut whole
    have hg : 0 < k'.groups := by
      rw [hstep.groups_eq]
      exact hk.groups_pos
    rw [cut.current_eq_head hg whole]
    exact hfirst
  refine ⟨⟨hfirst, ?_⟩, hnone, hkept⟩
  intro f hf
  cases hstep with
  | rest => exact h.current f hf
  | refuse => exact h.current f hf
  | push => exact h.current f hf
  | fill idle alive last cut whole =>
    cases hf
    rw [Core.kept_of_idle idle] at hkept
    exact hbegins _ (hkept ▸ cut) (whole.trans hkept.symm)
  | flush occasion idle cut whole =>
    cases hf
    rw [Core.kept_of_idle idle] at hkept
    have hall := hkept.trans (List.append_nil _)
    exact hbegins _ (hall ▸ cut) (whole.trans hall.symm)
  | proceed busy answered =>
    -- The flush would go on only if the batch had been stored.
    obtain ⟨rfl, -⟩ := Batch.Flush.answer_waiting answered
    exact absurd List.mem_cons_self (hnone _)
  | _ => cases hf

/-! ## Between two flushes -/

/-- Between two flushes it is enough that the first batch of the buffer has a bad offer. -/
theorem Core.stuck_of_calm (calm : k.loop.flush? = none)
    (poisoned : ∃ o ∈ Batch.head k.buffer k.groups, Bad o) : k.Stuck Bad := by
  refine ⟨?_, ?_⟩
  · rw [Core.kept_of_calm calm]
    exact poisoned
  · intro f hf
    rw [calm] at hf
    cases hf

/-! ## Whole runs -/

section

variable {capacity groups : Nat} {ticker : Ticker} {s₀ s t u : State}
  {as bs cs : List Action} {gs : List Event}

/-- A saver that is stuck stays so, and keeps all that it has. -/
theorem stuck_of_path (h : Path step s as es t) (hs : s.Coherent) (stuck : s.core.Stuck Bad)
    (rejects : Rejects Bad es) :
    t.core.Stuck Bad ∧ Fruitless es ∧ t.core.kept = s.core.kept ++ pushed es := by
  refine core_induction h (P := fun es k => Rejects Bad es →
    k.Stuck Bad ∧ Fruitless es ∧ k.kept = s.core.kept ++ pushed es) hs ?_ ?_ rejects
  · intro _
    exact ⟨stuck, nofun, (List.append_nil _).symm⟩
  · intro asked es k new k' hk ih hstep hall
    obtain ⟨hold, hnow⟩ := rejects_append.mp hall
    obtain ⟨hstuck, hnone, hkept⟩ := ih hold
    obtain ⟨hstuck', hnone', hkept'⟩ := hstuck.step hk hstep hnow
    refine ⟨hstuck', hnone.append hnone', ?_⟩
    rw [hkept', hkept, pushed_append, List.append_assoc]

/-- Only a saver that was initialized has something in its buffer. -/
theorem started_of_buffer (h : Path step s₀ as es s)
    (hnew : Saver.new capacity groups ticker = .ok s₀) (hb : s.buffer ≠ []) :
    s.lifecycle ≠ .created := by
  intro fresh
  have hs₀ := coherent_of_new hnew
  refine hb (core_induction h (P := fun _ k => k.loop = .absent → k.buffer = []) hs₀ ?_ ?_
    ((coherent_of_path h hs₀).absent_of_created fresh))
  · obtain ⟨-, -, rfl⟩ := new_eq_ok hnew
    exact fun _ => rfl
  · intro asked es k new k' _ ih hstep absent'
    have absent : k.loop = .absent := by
      by_contra hloop
      exact hstep.ne_absent (Or.inl hloop) absent'
    rcases hstep.of_absent absent with rfl | hinit
    · exact ih absent
    · exact absurd absent' (hstep.ne_absent (Or.inr hinit))

/-- Whoever has an offer pushed has begun a call. -/
theorem begun_of_pushes {c : Caller} (h : Path step s₀ as es s)
    (hnew : Saver.new capacity groups ticker = .ok s₀) (distinct : Distinct as)
    (hc : c ∈ (pushes es).map (·.1)) : c ∈ (saves as).map (·.1) := by
  obtain ⟨gone, haccounts⟩ := accounts_of_path h hnew distinct
  obtain ⟨p, hp, rfl⟩ := List.mem_map.mp hc
  exact List.mem_map_of_mem (haccounts.mem_calls hp)

/-- While nothing is pushed, no call that begins then is thanked. -/
theorem not_thanked_of_path {c : Caller} {o : Offer} (h : Path step s₀ as es u)
    (hnew : Saver.new capacity groups ticker = .ok s₀) (h' : Path step u cs gs t)
    (distinct : Distinct (as ++ cs)) (hpushes : pushes gs = []) (hbegun : (c, o) ∈ saves cs) :
    .returned c (.ok ()) ∉ gs := by
  intro hc
  have htold := (truthful_of_path (h.trans h') hnew).returned c _ (List.mem_append_right _ hc)
  -- Whoever is thanked has had an offer pushed, so its call began before.
  have hpush : c ∈ (pushes es).map (·.1) := by
    rcases htold with (⟨-, hpush⟩ | ⟨n, hv, -⟩) | ⟨e, hv, -⟩
    · rw [pushes_append, hpushes, List.append_nil] at hpush
      exact hpush
    · cases hv
    · cases hv
  have hnodup : ((saves (as ++ cs)).map (·.1)).Nodup := distinct
  rw [saves_append, List.map_append] at hnodup
  obtain ⟨hearlier, -, hdisjoint⟩ := List.nodup_append.mp hnodup
  exact hdisjoint c (begun_of_pushes h hnew hearlier hpush) c (List.mem_map_of_mem hbegun) rfl

/-- What is left of a saver that was stuck in `s`, after the events `fs` that have led to `t`:
    storage has taken nothing, and nothing has left the buffer but into a flush, which puts it
    back. -/
structure Blocked (s : State) (fs : List Event) (t : State) : Prop where
  fruitless : Fruitless fs
  kept : t.loop.unstored ++ t.buffer = s.buffer ++ pushed fs
  calm : t.loop.flush? = none → t.buffer = s.buffer ++ pushed fs ∧ t.shown = t.buffer.length
  /-- When the event loop exits, it counts everything in the buffer as not stored. -/
  exited : ∀ left, .exited left ∈ fs →
    t.loop = .idle .exited ∧ left = (s.buffer ++ pushed fs).length

/-- What becomes of offers during the events `gs` that have led to `t`, while the actions `cs` were
    taken: none is pushed, and the calls that begin are told so. -/
structure Refusing (capacity : Nat) (cs : List Action) (gs : List Event) (t : State) : Prop where
  pushed : pushed gs = []
  told : ∀ c o v, (c, o) ∈ saves cs → .returned c v ∈ gs →
    v = .error (.capacityReached capacity) ∨ v = .error .closed ∧ t.shutdown = true
  /-- The next request is refused as soon as the event loop takes it. -/
  refuses : ∀ at_ c o mailbox, t.loop = .idle at_ → at_ ≠ .exited →
    (at_ = .serving → t.shutdown = false) → t.mailbox.take? = some ((c, o), mailbox) →
    step t .loop =
      some (reply { t with mailbox } c (.error (.capacityReached capacity)), [.refused c o])

theorem blocked_of_path (h : Path step s bs fs t) (hs : s.Coherent)
    (calm : s.loop.flush? = none) (stuck : s.core.Stuck Bad) (rejects : Rejects Bad fs) :
    Blocked s fs t := by
  obtain ⟨-, hnone, hkept⟩ := stuck_of_path h hs stuck rejects
  have hbefore : s.core.kept = s.buffer := Core.kept_of_calm calm
  rw [hbefore] at hkept
  have hcalm : t.loop.flush? = none → t.buffer = s.buffer ++ Saver.pushed fs := by
    intro calm'
    rw [← hkept]
    exact (Core.kept_of_calm (k := t.core) calm').symm
  refine ⟨hnone, hkept, ?_, ?_⟩
  · intro calm'
    exact ⟨hcalm calm', ((coherent_of_path h hs).sound.calm calm').2⟩
  · intro left hleft
    obtain ⟨exited, hlength⟩ := exited_of_mem h hs hleft
    rw [← hcalm (by rw [exited]; rfl)]
    exact ⟨exited, hlength.symm⟩

/-- The event loop refuses the next offer if the buffer is full. -/
theorem loop_refuses {at_ : Station} {c : Caller} {o : Offer}
    {mailbox : Mailbox Caller Offer} (full : t.capacity ≤ t.buffer.length)
    (idle : t.loop = .idle at_) (alive : at_ ≠ .exited)
    (unasked : at_ = .serving → t.shutdown = false)
    (next : t.mailbox.take? = some ((c, o), mailbox)) :
    step t .loop =
      some (reply { t with mailbox } c (.error (.capacityReached t.capacity)), [.refused c o]) := by
  show loopMove t = _
  unfold loopMove
  cases at_ with
  | serving =>
    simp only [idle, unasked rfl, Bool.false_eq_true, if_false, next]
    rw [accept_of_full]
    exact full
  | draining =>
    simp only [idle, next]
    rw [accept_of_full]
    exact full
  | exited => exact absurd rfl alive

/-- A saver that is stuck with as many offers as it can hold takes no others. -/
theorem refusing_of_path (h : Path step s₀ as es s)
    (hnew : Saver.new capacity groups ticker = .ok s₀) (stuck : s.core.Stuck Bad)
    (hfirst : s.buffer ≠ []) (h' : Path step s bs fs u) (h'' : Path step u cs gs t)
    (rejects : Rejects Bad (fs ++ gs)) (distinct : Distinct (as ++ bs ++ cs))
    (full : (u.loop.unstored ++ u.buffer).length = capacity) : Refusing capacity cs gs t := by
  have hs := coherent_of_path h (coherent_of_new hnew)
  have hu := coherent_of_path h' hs
  have hrun := (h.trans h').trans h''
  obtain ⟨hrejects, hrejects'⟩ := rejects_append.mp rejects
  obtain ⟨hstuck, -, -⟩ := stuck_of_path h' hs stuck hrejects
  obtain ⟨-, -, hkept⟩ := stuck_of_path h'' hu hstuck hrejects'
  have hcapacity : t.capacity = capacity := (settings_eq_of_path hrun hnew).1
  have hbound : t.core.kept.length ≤ capacity := by
    have hle := (coherent_of_path h'' hu).sound.kept_length_le
    rw [show t.core.capacity = capacity from hcapacity] at hle
    exact hle
  have hlength : u.core.kept.length = capacity := full
  have hpushed : Saver.pushed gs = [] := by
    rw [hkept, List.length_append] at hbound
    exact List.length_eq_zero_iff.mp (by omega)
  have hpushes : pushes gs = [] := List.map_eq_nil_iff.mp hpushed
  refine ⟨hpushed, ?_, ?_⟩
  · intro c o v hbegun hc
    rcases v with e | ⟨⟩
    · have hwhy := error_of_returned_of_path h hnew (started_of_buffer h hnew hfirst) (h'.trans h'')
        (List.mem_append_right _ hc)
      rcases hwhy with rfl | ⟨rfl, asked⟩
      · exact Or.inl rfl
      · exact Or.inr ⟨rfl, asked⟩
    · exact absurd hc (not_thanked_of_path (h.trans h') hnew h'' distinct hpushes hbegun)
  · intro at_ c o mailbox idle alive unasked next
    have hall : t.buffer.length = capacity := by
      rw [hpushed, List.append_nil, Core.kept_of_idle (k := t.core) idle] at hkept
      rw [← hlength, ← hkept]
      rfl
    rw [← hcapacity]
    exact loop_refuses (by rw [hcapacity, hall]) idle alive unasked next

/-- Take any state between two flushes that any run of a saver comes to, with a bad offer in the
    first batch that the buffer would be cut into. Whatever happens then, and whoever moves when, as
    long as storage refuses bad offers: nothing is stored any more and the buffer loses nothing, so
    all of it is counted as not stored in the end; and as soon as the saver has as many offers as it
    can hold, it refuses all others because it is full, or because it was asked to close. A store
    refuses the offers that its columns cannot hold. -/
theorem poisoned_head_blocks (hnew : Saver.new capacity groups ticker = .ok s₀)
    (h : Path step s₀ as es s) (calm : s.loop.flush? = none)
    (poisoned : ∃ o ∈ s.buffer.take (s.buffer.length ⌈/⌉ min groups s.buffer.length), Bad o) :
    (∀ bs fs t, Path step s bs fs t → Rejects Bad fs → Blocked s fs t) ∧
    (∀ bs fs u cs gs t, Path step s bs fs u → Path step u cs gs t → Rejects Bad (fs ++ gs) →
      Distinct (as ++ bs ++ cs) → (u.loop.unstored ++ u.buffer).length = capacity →
      Refusing capacity cs gs t) ∧
    ∀ fs, Persisted fs → Rejects (fun o => ¬ Storage.Storable o) fs := by
  have hs := coherent_of_path h (coherent_of_new hnew)
  have hstuck : s.core.Stuck Bad := by
    have hgroups : s.core.groups = groups := (settings_eq_of_path h hnew).2
    apply Core.stuck_of_calm calm
    rw [hgroups, Batch.head, Batch.step, ← Nat.ceilDiv_eq_add_pred_div]
    exact poisoned
  have hfirst : s.buffer ≠ [] := by
    obtain ⟨o, ho, -⟩ := poisoned
    exact List.ne_nil_of_mem (List.mem_of_mem_take ho)
  refine ⟨?_, ?_, fun fs hfs => hfs.rejects⟩
  · intro bs fs t h' rejects
    exact blocked_of_path h' hs calm hstuck rejects
  · intro bs fs u cs gs t h' h'' rejects distinct full
    exact refusing_of_path h hnew hstuck hfirst h' h'' rejects distinct full

end

/-- An offer that cannot be stored, then a good one that fills the buffer. The next is refused, the
    one after the saver was asked to close is turned away, and both offers are left in the end. -/
theorem poisoned_head_blocks_good_offer_left :
    let s₀ : State := { capacity := 2, groups := 2, ticker := { period := .millis 1000 } }
    let offer (n : UInt64) : Offer := .fresh n 1 1
    let bad : Offer := offer 9223372036854775808
    let refused : Except Storage.Error Unit := .error (.valueOutOfRange 9223372036854775808)
    let as : List Action := [.init, .save 0 bad, .loop]
    let bs : List Action := [.save 1 (offer 1), .loop, .answer refused]
    let cs : List Action := [.save 2 (offer 2), .loop, .collect 2, .beginClose 3,
      .save 4 (offer 3), .loop, .loop, .answer refused]
    Saver.new 2 2 { period := .millis 1000 } = .ok s₀ ∧
      ∃ es s fs u gs t, Path step s₀ as es s ∧ Path step s bs fs u ∧ Path step u cs gs t ∧
        u.buffer = [bad, offer 1] ∧ .returned 2 (.error (.capacityReached 2)) ∈ gs ∧
        .returned 4 (.error .closed) ∈ gs ∧ .exited 2 ∈ gs ∧
        Blocked s (fs ++ gs) t ∧ Refusing 2 cs gs t := by
  intro s₀ offer bad refused as bs cs
  have hnew : Saver.new 2 2 { period := .millis 1000 } = .ok s₀ := rfl
  have hend : (follow step s₀ as).bind (fun m => (follow step m.1 bs).bind fun m' =>
      (follow step m'.1 cs).map fun m'' => ((m.1.loop, m.1.buffer), (m'.1.loop, m'.1.buffer),
        stored (m'.2 ++ m''.2), decide (.returned 2 (.error (.capacityReached 2)) ∈ m''.2 ∧
          .returned 4 (.error .closed) ∈ m''.2 ∧ .exited 2 ∈ m''.2))) =
      some ((.idle .serving, [bad]), (.idle .serving, [bad, offer 1]), [], true) := by
    decide +kernel
  obtain ⟨⟨s, es⟩, hfollow, hm⟩ := Option.bind_eq_some_iff.mp hend
  obtain ⟨⟨u, fs⟩, hfollow', hm⟩ := Option.bind_eq_some_iff.mp hm
  obtain ⟨⟨t, gs⟩, hfollow'', hm⟩ := Option.map_eq_some_iff.mp hm
  simp only [Prod.mk.injEq, decide_eq_true_eq] at hm
  obtain ⟨⟨serving, hbuffer⟩, ⟨serving', hbuffer'⟩, hstored, hfull, hclosed, hexited⟩ := hm
  have hrun := path_of_follow hfollow
  have hrun' := path_of_follow hfollow'
  have hrun'' := path_of_follow hfollow''
  have rejects : Rejects (fun o => ¬ Storage.Storable o) (fs ++ gs) := by
    rw [rejects_iff, hstored]
    exact nofun
  have calm : s.loop.flush? = none := by rw [serving]; rfl
  have poisoned : ∃ o ∈ s.buffer.take (s.buffer.length ⌈/⌉ min 2 s.buffer.length),
      ¬ Storage.Storable o := by
    rw [hbuffer]
    decide +kernel
  have full : (u.loop.unstored ++ u.buffer).length = 2 := by
    rw [serving', hbuffer']
    rfl
  obtain ⟨hblocked, hrefusing, -⟩ := poisoned_head_blocks hnew hrun calm poisoned
  exact ⟨hnew, es, s, fs, u, gs, t, hrun, hrun', hrun'', hbuffer', hfull, hclosed, hexited,
    hblocked _ _ _ (hrun'.trans hrun'') rejects,
    hrefusing _ _ _ _ _ _ hrun' hrun'' rejects (by unfold Distinct; decide +kernel) full⟩

/-- A call that begins after the saver was asked to close is not told that the buffer is full. -/
theorem not_every_later_save_finds_buffer_full :
    ¬ ∀ (Bad : Offer → Prop) capacity groups ticker s₀ as es s bs fs t c o v,
      Saver.new capacity groups ticker = .ok s₀ → Path step s₀ as es s → s.loop.flush? = none →
      (∃ o ∈ s.buffer.take (s.buffer.length ⌈/⌉ min groups s.buffer.length), Bad o) →
      s.buffer.length = capacity → Path step s bs fs t → Rejects Bad fs → Distinct (as ++ bs) →
      (c, o) ∈ saves bs → .returned c v ∈ fs → v = .error (.capacityReached capacity) := by
  intro hall
  let s₀ : State := { capacity := 1, groups := 1, ticker := { period := .millis 1000 } }
  let bad : Offer := .fresh 9223372036854775808 1 1
  let as : List Action := [.init, .save 0 bad, .loop,
    .answer (.error (.valueOutOfRange 9223372036854775808))]
  let bs : List Action := [.beginClose 1, .save 2 (.fresh 1 1 1)]
  have hend : (follow step s₀ as).bind (fun m => (follow step m.1 bs).map fun m' => (m.1.loop,
      m.1.buffer, stored m'.2, decide (.returned 2 (.error .closed) ∈ m'.2))) =
      some (.idle .serving, [bad], [], true) := by
    decide +kernel
  obtain ⟨⟨s, es⟩, hfollow, hm⟩ := Option.bind_eq_some_iff.mp hend
  obtain ⟨⟨t, fs⟩, hfollow', hm⟩ := Option.map_eq_some_iff.mp hm
  simp only [Prod.mk.injEq, decide_eq_true_eq] at hm
  obtain ⟨serving, hbuffer, hstored, hclosed⟩ := hm
  have rejects : Rejects (fun o => ¬ Storage.Storable o) fs := by
    rw [rejects_iff, hstored]
    exact nofun
  have calm : s.loop.flush? = none := by rw [serving]; rfl
  have poisoned : ∃ o ∈ s.buffer.take (s.buffer.length ⌈/⌉ min 1 s.buffer.length),
      ¬ Storage.Storable o := by
    rw [hbuffer]
    decide +kernel
  have full : s.buffer.length = 1 := by
    rw [hbuffer]
    rfl
  have hfull := hall (fun o => ¬ Storage.Storable o) 1 1 { period := .millis 1000 } s₀ as es s bs
    fs t 2 (.fresh 1 1 1) (.error .closed) rfl (path_of_follow hfollow) calm poisoned full
    (path_of_follow hfollow') rejects (by unfold Distinct; decide +kernel)
    (by simp [bs, saves, Action.begun]) hclosed
  cases hfull

end OfferService.Saver
