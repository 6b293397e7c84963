import Mathlib.Data.List.Nodup
import OfferService.Proofs.Saver.Accounts
import OfferService.Proofs.Saver.Conservation

/-
  OfferService.Proofs.Saver.Verdicts

  Verdicts agree with what the event loop did, whenever they are given and whatever comes later.
  No call is left without one: until it is over a call waits for a place or for a verdict, or has a
  verdict on its way, and once the event loop has exited it returns as soon as its caller looks.
-/
namespace OfferService.Saver

/-! ## Calls that have not returned -/

/-- The call has returned, or its caller has given it up. -/
def Over (es : List Event) (c : Caller) : Prop := (∃ v, .returned c v ∈ es) ∨ .abandoned c ∈ es

theorem Over.append {es fs : List Event} {c : Caller} (h : Over es c ∨ Over fs c) :
    Over (es ++ fs) c := by
  rcases h with (⟨v, h⟩ | h) | (⟨v, h⟩ | h)
  · exact Or.inl ⟨v, List.mem_append_left _ h⟩
  · exact Or.inr (List.mem_append_left _ h)
  · exact Or.inl ⟨v, List.mem_append_right _ h⟩
  · exact Or.inr (List.mem_append_right _ h)

namespace Desk

variable {d d' : Desk} {new : List Event} {begun : List (Caller × Offer)}

/-- The call has not returned: its caller waits for a place or for a verdict, or has one on its
    way. -/
def Open (d : Desk) (c : Caller) : Prop :=
  c ∈ d.pending.map (·.1) ∨ c ∈ d.awaiting ∨ c ∈ d.verdicts.map (·.1)

theorem Open.reply {c : Caller} (h : d.Open c) (k : Caller) (v : Verdict) :
    (d.reply k v).Open c := by
  unfold Desk.reply
  split
  · rcases h with hp | ha | hv
    · exact Or.inl hp
    · -- Who waits for a verdict has one on its way if it is the caller who is told.
      by_cases hc : c = k
      · refine Or.inr (Or.inr ?_)
        rw [List.map_append, hc]
        exact List.mem_append_right _ List.mem_cons_self
      · exact Or.inr (Or.inl ((List.mem_erase_of_ne hc).mpr ha))
    · refine Or.inr (Or.inr ?_)
      rw [List.map_append]
      exact List.mem_append_left _ hv
  · exact h

/-- A caller other than the one that is taken out of a line stays there. -/
theorem mem_map_filter_ne {α : Type} {l : List (Caller × α)} {c k : Caller}
    (h : c ∈ l.map (·.1)) (hc : c ≠ k) : c ∈ (l.filter fun p => p.1 ≠ k).map (·.1) := by
  obtain ⟨p, hp, rfl⟩ := List.mem_map.mp h
  exact List.mem_map.mpr ⟨p, List.mem_filter.mpr ⟨hp, by simpa using hc⟩, rfl⟩

/-- The end of a call is among the events. -/
theorem over_of_gone {c : Caller} {v : Verdict} {e : Event}
    (gone : e = .returned c v ∨ e = .abandoned c) : Over [e] c := by
  rcases gone with rfl | rfl
  · exact Or.inl ⟨v, List.mem_cons_self⟩
  · exact Or.inr List.mem_cons_self

/-- An open call stays open unless it is over. -/
theorem Open.step {c : Caller} (ho : d.Open c) (h : Desk.Step d begun new d') :
    d'.Open c ∨ Over new c := by
  cases h with
  | rest => exact Or.inl ho
  | shut => exact Or.inl ho
  | wake => exact Or.inl ho
  | drain => exact Or.inl ho
  | exit => exact Or.inl ho
  | turnAway => exact Or.inl ho
  | @push k o rest =>
    have ho' : ({ d with items := rest } : Desk).Open c := ho
    exact Or.inl (ho'.reply k _)
  | @refuse k o rest =>
    have ho' : ({ d with items := rest } : Desk).Open c := ho
    exact Or.inl (ho'.reply k _)
  | enter =>
    rcases ho with hp | ha | hv
    · exact Or.inl (Or.inl hp)
    · exact Or.inl (Or.inr (Or.inl (List.mem_append_left _ ha)))
    · exact Or.inl (Or.inr (Or.inr hv))
  | queue =>
    rcases ho with hp | hrest
    · refine Or.inl (Or.inl ?_)
      rw [List.map_append]
      exact List.mem_append_left _ hp
    · exact Or.inl (Or.inr hrest)
  | @letIn k o =>
    rcases ho with hp | ha | hv
    · by_cases hc : c = k
      · rw [hc]
        exact Or.inl (Or.inr (Or.inl (List.mem_append_right _ List.mem_cons_self)))
      · exact Or.inl (Or.inl (mem_map_filter_ne hp hc))
    · exact Or.inl (Or.inr (Or.inl (List.mem_append_left _ ha)))
    · exact Or.inl (Or.inr (Or.inr hv))
  | @withdraw k o e found gone =>
    rcases ho with hp | hrest
    · by_cases hc : c = k
      · rw [hc]
        exact Or.inr (over_of_gone gone)
      · exact Or.inl (Or.inl (mem_map_filter_ne hp hc))
    · exact Or.inl (Or.inr hrest)
  | @collect k v e found gone =>
    rcases ho with hp | ha | hv
    · exact Or.inl (Or.inl hp)
    · exact Or.inl (Or.inr (Or.inl ha))
    · by_cases hc : c = k
      · rw [hc]
        exact Or.inr (over_of_gone gone)
      · exact Or.inl (Or.inr (Or.inr (mem_map_filter_ne hv hc)))
  | @forsake k e waits gone =>
    rcases ho with hp | ha | hv
    · exact Or.inl (Or.inl hp)
    · by_cases hc : c = k
      · rw [hc]
        rcases gone with hgone | ⟨hgone, -⟩
        · exact Or.inr (over_of_gone (v := .ok ()) (Or.inr hgone))
        · exact Or.inr (over_of_gone (Or.inl hgone))
      · exact Or.inl (Or.inr (Or.inl ((List.mem_erase_of_ne hc).mpr ha)))
    · exact Or.inl (Or.inr (Or.inr hv))

/-- A call that is begun is open then, or over at once. -/
theorem Step.open_of_begun {c : Caller} (h : Desk.Step d begun new d')
    (hc : c ∈ begun.map (·.1)) : d'.Open c ∨ Over new c := by
  cases h with
  | turnAway =>
    cases List.mem_singleton.mp hc
    exact Or.inr (Or.inl ⟨_, List.mem_cons_self⟩)
  | enter =>
    cases List.mem_singleton.mp hc
    exact Or.inl (Or.inr (Or.inl (List.mem_append_right _ List.mem_cons_self)))
  | queue =>
    cases List.mem_singleton.mp hc
    refine Or.inl (Or.inl ?_)
    rw [List.map_append]
    exact List.mem_append_right _ List.mem_cons_self
  | _ => cases hc

end Desk

section

variable {capacity groups : Nat} {ticker : Ticker} {s₀ s : State} {as : List Action}
  {es : List Event}

/-- Every call that was begun is open or over. -/
theorem open_or_over_of_path {c : Caller} (h : Path step s₀ as es s)
    (hnew : new capacity groups ticker = .ok s₀) (hc : c ∈ (saves as).map (·.1)) :
    s.desk.Open c ∨ Over es c := by
  refine desk_induction h
    (P := fun calls es d => c ∈ calls.map (·.1) → d.Open c ∨ Over es c) hnew nofun ?_ hc
  intro calls es d begun new d' _ ih hstep hmem
  rw [List.map_append] at hmem
  rcases List.mem_append.mp hmem with hold | hnow
  · rcases ih hold with hopen | hover
    · rcases hopen.step hstep with hopen' | hover
      · exact Or.inl hopen'
      · exact Or.inr (Over.append (Or.inr hover))
    · exact Or.inr (Over.append (Or.inl hover))
  · rcases hstep.open_of_begun hnow with hopen' | hover
    · exact Or.inl hopen'
    · exact Or.inr (Over.append (Or.inr hover))

/-- What was stored are the first of the offers that were pushed. -/
theorem stored_eq_take_of_path (h : Path step s₀ as es s)
    (hnew : new capacity groups ticker = .ok s₀) :
    stored es = ((pushes es).take (stored es).length).map (·.2) := by
  have hpushed := pushed_eq_of_new h hnew
  calc stored es = (stored es ++ s.core.kept).take (stored es).length := by
        rw [List.take_append_of_le_length (Nat.le_refl _), List.take_length]
    _ = (pushed es).take (stored es).length := by rw [hpushed]
    _ = ((pushes es).take (stored es).length).map (·.2) := by rw [pushed, List.map_take]

end

/-! ## Verdicts and offers -/

/-- The verdict agrees with what became of the offer: it was pushed once if the verdict is `ok`, and
    it was not pushed if the verdict is an error. -/
def Agrees (es : List Event) (c : Caller) (o : Offer) : Verdict → Prop
  | .ok () => (c, o) ∈ pushes es ∧ ((pushes es).map (·.1)).count c = 1
  | .error _ => c ∉ (pushes es).map (·.1)

/-- The call returns with this verdict as soon as its caller looks. -/
def Returns (s : State) (c : Caller) (v : Verdict) : Prop :=
  ∃ t, step s (.resume c) = some (t, [.returned c v]) ∨
    step s (.collect c) = some (t, [.returned c v])

namespace Desk.Accounts

variable {calls : List (Caller × Offer)} {es : List Event} {d : Desk}
  {gone : List (Caller × Offer)}

theorem nodup (ha : d.Accounts calls es gone) (hn : (calls.map (·.1)).Nodup) :
    ((pushes es).map (·.1) ++
      (refusals es ++ d.items ++ d.pending ++ gone).map (·.1)).Nodup := by
  rw [← List.map_append, ← List.append_assoc, ← List.append_assoc, ← List.append_assoc]
  exact (ha.perm.map (·.1)).nodup_iff.mpr hn

theorem pushes_nodup (ha : d.Accounts calls es gone) (hn : (calls.map (·.1)).Nodup) :
    ((pushes es).map (·.1)).Nodup :=
  (List.nodup_append.mp (ha.nodup hn)).1

/-- An offer that is in another place was not pushed. -/
theorem not_pushed {c : Caller} (ha : d.Accounts calls es gone) (hn : (calls.map (·.1)).Nodup)
    (hc : c ∈ (refusals es ++ d.items ++ d.pending ++ gone).map (·.1)) :
    c ∉ (pushes es).map (·.1) := by
  intro hpushed
  exact (List.nodup_append.mp (ha.nodup hn)).2.2 c hpushed c hc rfl

/-- What the event loop tells a caller agrees with what became of its offer. -/
theorem agrees_of_told {c : Caller} {o : Offer} {v : Verdict} (ha : d.Accounts calls es gone)
    (hn : (calls.map (·.1)).Nodup) (hc : (c, o) ∈ calls) (htold : Told es c v) :
    Agrees es c o v := by
  rcases htold with ⟨rfl, hpushed⟩ | ⟨n, rfl, hrefused⟩
  · -- The caller has handed over one offer, so that is the one that was pushed.
    obtain ⟨p, hp, rfl⟩ := List.mem_map.mp hpushed
    have hsame : p = (p.1, o) := List.inj_on_of_nodup_map hn (ha.mem_calls hp) hc rfl
    refine ⟨hsame ▸ hp, ?_⟩
    exact List.count_eq_one_of_mem (ha.pushes_nodup hn) hpushed
  · apply ha.not_pushed hn
    rw [List.map_append, List.map_append, List.map_append]
    exact List.mem_append_left _ (List.mem_append_left _ (List.mem_append_left _ hrefused))

/-- What a caller gets who is turned away agrees with what became of its offer. -/
theorem agrees_of_gone {c : Caller} {o : Offer} {e : SaverError} (ha : d.Accounts calls es gone)
    (hn : (calls.map (·.1)).Nodup) (hc : c ∈ gone.map (·.1)) : Agrees es c o (.error e) := by
  apply ha.not_pushed hn
  rw [List.map_append]
  exact List.mem_append_right _ hc

/-- The offer of a caller who waits for a place was not pushed. -/
theorem agrees_of_pending {c : Caller} {o : Offer} {e : SaverError}
    (ha : d.Accounts calls es gone) (hn : (calls.map (·.1)).Nodup)
    (hc : c ∈ d.pending.map (·.1)) : Agrees es c o (.error e) := by
  apply ha.not_pushed hn
  rw [List.map_append, List.map_append]
  exact List.mem_append_left _ (List.mem_append_right _ hc)

end Desk.Accounts

/-! ## Once the event loop has exited -/

/-- A caller in line for a place in a mailbox that is closed is turned away. -/
theorem returns_of_pending {s : State} {c : Caller} {o : Offer}
    (found : s.pending.lookup c = some o) (closed : s.mailbox.isClosed = true) :
    Returns s c (.error .closed) := by
  have hresume : resume s c = some ({ s with
      pending := s.pending.filter fun p => p.1 ≠ c
      mailbox := s.mailbox.withdraw c }, [.returned c (.error .closed)]) := by
    rw [resume, found]
    exact if_pos (Or.inr closed)
  exact ⟨_, Or.inl hresume⟩

/-- A caller whose verdict is on its way gets it. -/
theorem returns_of_verdict {s : State} {c : Caller} {v : Verdict}
    (found : s.verdicts.lookup c = some v) : Returns s c v := by
  have hcollect : collect s c = some ({ s with
      verdicts := s.verdicts.filter fun p => p.1 ≠ c }, [.returned c v]) := by
    rw [collect, found]
  exact ⟨_, Or.inr hcollect⟩

/-- A call that is open then returns as soon as its caller looks, with what the event loop told or
    with `closed`. -/
theorem exists_returns_of_open {s : State} {es : List Event} {c : Caller} (hd : s.desk.Sound)
    (ht : s.desk.Truthful es) (exited : s.loop = .idle .exited) (hc : s.desk.Open c) :
    ∃ v, Returns s c v ∧
      (Told es c v ∨ v = .error .closed ∧ c ∈ s.desk.pending.map (·.1)) := by
  have hstation := station_of_idle exited
  rcases hc with hp | ha | hv
  · -- The mailbox is closed, so there is no use in waiting for a place.
    have hclosed : s.mailbox.isClosed = true := hd.closed (Or.inr hstation)
    obtain ⟨p, hp', rfl⟩ := List.mem_map.mp hp
    obtain ⟨o, found⟩ := Option.isSome_iff_exists.mp
      (List.lookup_isSome_iff.mpr ⟨p, hp', beq_self_eq_true p.1⟩)
    exact ⟨.error .closed, returns_of_pending found hclosed, Or.inr ⟨rfl, hp⟩⟩
  · -- Nobody waits for a verdict any more.
    rw [hd.awaiting_eq_nil hstation] at ha
    cases ha
  · obtain ⟨p, hv', rfl⟩ := List.mem_map.mp hv
    obtain ⟨v, found⟩ := Option.isSome_iff_exists.mp
      (List.lookup_isSome_iff.mpr ⟨p, hv', beq_self_eq_true p.1⟩)
    exact ⟨v, returns_of_verdict found, Or.inl (ht.onTheWay _ (mem_of_lookup found))⟩

/-! ## The main result -/

/-- What callers of save can rely on, in a run that has come to `s`. -/
structure Faithful (as : List Action) (es : List Event) (s : State) : Prop where
  /-- Only offers that were handed over are pushed, each at most once. -/
  pushed : (∀ p ∈ pushes es, p ∈ saves as) ∧ ∀ c, ((pushes es).map (·.1)).count c ≤ 1
  /-- Verdicts agree with what became of the offers, now and later, and only offers that were pushed
      are stored. -/
  agrees : ∀ bs fs t, Path step s bs fs t → Distinct (as ++ bs) →
    (∀ c o v, (c, o) ∈ saves as → .returned c v ∈ es → Agrees (es ++ fs) c o v) ∧
      ∃ n, stored (es ++ fs) = ((pushes (es ++ fs)).take n).map (·.2)
  /-- Calls that begin after closing has begun return at once. -/
  closed : ∀ k, .closeBegan k ∈ es →
    ∀ c o, step s (.save c o) = some (s, [.returned c (.error .closed)])
  /-- Once the event loop has exited, every call that is not over has its verdict. -/
  answered : s.loop = .idle .exited → ∀ c o, (c, o) ∈ saves as →
    Over es c ∨
      ∃ v, Returns s c v ∧ (Told es c v ∨ v = .error .closed) ∧ Agrees es c o v

/-- A verdict agrees with what became of the offer. -/
theorem agrees_of_path {capacity groups : Nat} {ticker : Ticker} {s₀ s : State}
    {as : List Action} {es : List Event} {c : Caller} {o : Offer} {v : Verdict}
    (h : Path step s₀ as es s) (hnew : new capacity groups ticker = .ok s₀)
    (distinct : Distinct as) (hc : (c, o) ∈ saves as) (hv : .returned c v ∈ es) :
    Agrees es c o v := by
  obtain ⟨gone, ha⟩ := accounts_of_path h hnew distinct
  rcases (truthful_of_path h hnew).returned c v hv with htold | ⟨e, rfl, haway⟩
  · exact ha.agrees_of_told distinct hc htold
  · exact ha.agrees_of_gone distinct (ha.turnedAway c e haway hv)

/-- In every run of a saver in which no caller begins two calls, whoever moves when, verdicts are
    faithful to what the event loop does with the offers. -/
theorem verdicts_faithful {capacity groups : Nat} {ticker : Ticker} {s₀ s : State}
    {as : List Action} {es : List Event} (hnew : new capacity groups ticker = .ok s₀)
    (h : Path step s₀ as es s) (distinct : Distinct as) : Faithful as es s := by
  obtain ⟨gone, ha⟩ := accounts_of_path h hnew distinct
  refine ⟨⟨fun p hp => ha.mem_calls hp, ?_⟩, ?_, ?_, ?_⟩
  · exact List.nodup_iff_count.mp (ha.pushes_nodup distinct)
  · -- What holds of every run holds of the one that goes on.
    intro bs fs t hlater distinct'
    have hall := h.trans hlater
    refine ⟨?_, _, stored_eq_take_of_path hall hnew⟩
    intro c o v hc hv
    refine agrees_of_path hall hnew distinct' ?_ (List.mem_append_left _ hv)
    rw [saves_append]
    exact List.mem_append_left _ hc
  · intro k hk c o
    have hshutdown := shutdown_of_closeBegan h hk
    show some (save s c o) = _
    rw [save, if_pos hshutdown]
  · intro exited c o hc
    have hmem : c ∈ (saves as).map (·.1) := List.mem_map.mpr ⟨(c, o), hc, rfl⟩
    rcases open_or_over_of_path h hnew hmem with hopen | hover
    · obtain ⟨v, hreturns, hwhy⟩ :=
        exists_returns_of_open (desk_sound_of_path h hnew) (truthful_of_path h hnew) exited hopen
      refine Or.inr ⟨v, hreturns, ?_⟩
      rcases hwhy with htold | ⟨rfl, hp⟩
      · exact ⟨Or.inl htold, ha.agrees_of_told distinct hc htold⟩
      · exact ⟨Or.inr rfl, ha.agrees_of_pending distinct hp⟩
    · exact Or.inl hover

/-- A call before the saver is initialized, one that is pushed, one that is refused, one that is
    given up in line, one that is still in line when the event loop exits, and one that comes after
    closing has begun. -/
theorem verdicts_faithful_one_of_each :
    let s₀ : State := { capacity := 1, groups := 1, ticker := { period := .millis 1000 } }
    let offer (n : UInt64) : Offer := .fresh n 1 1
    let as : List Action := [.save 0 (offer 0), .init, .save 1 (offer 1), .save 2 (offer 2), .loop,
      .collect 1, .answer (.error .zeroPageSize), .resume 2, .save 3 (offer 3), .loop, .collect 2,
      .save 4 (offer 4), .abandon 3, .beginClose 9, .save 5 (offer 5), .loop, .loop,
      .answer (.ok ())]
    new 1 1 { period := .millis 1000 } = .ok s₀ ∧ Distinct as ∧
      ∃ es s, Path step s₀ as es s ∧ pushes es = [(1, offer 1)] ∧ stored es = [offer 1] ∧
        s.loop = .idle .exited ∧ s.pending = [(4, offer 4)] ∧ Faithful as es s := by
  intro s₀ offer as
  have hnew : new 1 1 { period := .millis 1000 } = .ok s₀ := rfl
  have hdistinct : Distinct as := by
    unfold Distinct
    decide +kernel
  have hend : (follow step s₀ as).map (fun m => (pushes m.2, stored m.2, m.1.loop, m.1.pending)) =
      some ([(1, offer 1)], [offer 1], .idle .exited, [(4, offer 4)]) := by
    decide +kernel
  obtain ⟨⟨s, es⟩, hfollow, hm⟩ := Option.map_eq_some_iff.mp hend
  simp only [Prod.mk.injEq] at hm
  obtain ⟨hpushes, hstored, hloop, hpending⟩ := hm
  have hrun := path_of_follow hfollow
  exact ⟨hnew, hdistinct, es, s, hrun, hpushes, hstored, hloop, hpending,
    verdicts_faithful hnew hrun hdistinct⟩

end OfferService.Saver
