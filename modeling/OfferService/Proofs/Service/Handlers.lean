import Mathlib.Logic.Function.Basic
import Mathlib.Algebra.BigOperators.Group.List.Basic
import OfferService.Proofs.Api.Debts
import OfferService.Proofs.Lookup
import OfferService.Proofs.Saver.Tally
import OfferService.Service.Step

/-
  OfferService.Proofs.Service.Handlers

  What the handlers of a service owe, one by one and together. A step of a handler changes what that
  one owes and nobody else; a verdict of the saver or the publisher changes what a handler has to do
  next, and not what it owes.
-/
namespace OfferService.Service

open OfferService.Api (Debt Owes)

variable {hs hs' : List (Caller × Handling)} {debt : Caller → Debt} {c : Caller} {h h' : Handling}
  {d : Debt}

/-! ## Who owes what -/

/-- Each handler owes what is written down for its caller. -/
structure Handlers (debt : Caller → Debt) (hs : List (Caller × Handling)) : Prop where
  nodup : (hs.map (·.1)).Nodup
  owes : ∀ p ∈ hs, Owes p.2.request (debt p.1) p.2.job

/-- What the handlers owe together. -/
def owed (f : Debt → Nat) (debt : Caller → Debt) (hs : List (Caller × Handling)) : Nat :=
  ((hs.map (·.1)).map fun c => f (debt c)).sum

theorem Handlers.owes_of_lookup (hh : Handlers debt hs) (found : hs.lookup c = some h) :
    Owes h.request (debt c) h.job := hh.owes _ (mem_of_lookup found)

/-! ## Changes -/

/-- What is being done for a caller is changed. -/
def replace (c : Caller) (h : Handling) (hs : List (Caller × Handling)) :
    List (Caller × Handling) :=
  hs.map fun p => if p.1 = c then (c, h) else p

theorem keys_replace (c : Caller) (h : Handling) (hs : List (Caller × Handling)) :
    (replace c h hs).map (·.1) = hs.map (·.1) := by
  rw [replace, List.map_map]
  apply List.map_congr_left
  intro p _
  show (if p.1 = c then (c, h) else p).1 = p.1
  split
  · rename_i heq
    exact heq.symm
  · rfl

theorem lookup_replace (found : hs.lookup c = some h) : (replace c h' hs).lookup c = some h' := by
  induction hs with
  | nil => cases found
  | cons q hs ih =>
    rw [List.lookup_cons] at found
    by_cases heq : q.1 = c
    · rw [Service.replace, List.map_cons, if_pos heq, List.lookup_cons_self]
    · have hne : (c == q.1) = false := beq_false_of_ne (Ne.symm heq)
      rw [hne] at found
      rw [Service.replace, List.map_cons, if_neg heq, List.lookup_cons, hne]
      exact ih found

/-- What is done for others stays. -/
theorem lookup_replace_of_ne {k : Caller} (hne : k ≠ c) :
    (replace k h hs).lookup c = hs.lookup c := by
  induction hs with
  | nil => rfl
  | cons q hs ih =>
    rw [Service.replace, List.map_cons]
    by_cases heq : q.1 = k
    · have hc : (c == k) = false := beq_false_of_ne (Ne.symm hne)
      rw [if_pos heq, List.lookup_cons, List.lookup_cons, heq, hc]
      exact ih
    · rw [if_neg heq, List.lookup_cons, List.lookup_cons]
      split
      · rfl
      · exact ih

/-- A handler that goes on owes what its caller owes from now on. -/
theorem Handlers.replace (hh : Handlers debt hs) (howes : Owes h.request d h.job) :
    Handlers (Function.update debt c d) (replace c h hs) := by
  refine ⟨by rw [keys_replace]; exact hh.nodup, ?_⟩
  intro p hp
  obtain ⟨q, hq, rfl⟩ := List.mem_map.mp hp
  by_cases heq : q.1 = c
  · rw [if_pos heq, Function.update_self]
    exact howes
  · rw [if_neg heq, Function.update_of_ne heq]
    exact hh.owes q hq

theorem owed_replace (f : Debt → Nat) (hn : (hs.map (·.1)).Nodup) (found : hs.lookup c = some h) :
    owed f (Function.update debt c d) (replace c h' hs) + f (debt c) = owed f debt hs + f d := by
  -- The caller is among them once; what all others owe is the same before and after.
  have hmem : c ∈ hs.map (·.1) := List.mem_map_of_mem (mem_of_lookup found)
  have hperm := List.perm_cons_erase hmem
  have hrest : ((hs.map (·.1)).erase c).map (fun k => f (Function.update debt c d k)) =
      ((hs.map (·.1)).erase c).map fun k => f (debt k) := by
    apply List.map_congr_left
    intro k hk
    have hne : k ≠ c := by
      intro heq
      rw [heq] at hk
      exact hn.not_mem_erase hk
    rw [Function.update_of_ne hne]
  have hbefore := (hperm.map fun k => f (debt k)).sum_eq
  have hafter := (hperm.map fun k => f (Function.update debt c d k)).sum_eq
  rw [List.map_cons, List.sum_cons] at hbefore hafter
  rw [hrest, Function.update_self] at hafter
  rw [owed, owed, keys_replace, hbefore, hafter]
  omega

theorem Handlers.remove (hh : Handlers debt hs) :
    Handlers debt (hs.filter fun p => p.1 ≠ c) := by
  refine ⟨(List.filter_sublist.map _).nodup hh.nodup, ?_⟩
  intro p hp
  exact hh.owes p (List.mem_of_mem_filter hp)

theorem owed_remove (f : Debt → Nat) (hn : (hs.map (·.1)).Nodup) (found : hs.lookup c = some h) :
    f (debt c) + owed f debt (hs.filter fun p => p.1 ≠ c) = owed f debt hs := by
  have hperm := ((perm_of_lookup hn found).map (·.1)).map fun k => f (debt k)
  exact hperm.sum_eq.symm

/-- A handler that is new owes nothing. -/
theorem Handlers.add (hh : Handlers debt hs) (fresh : hs.lookup c = none)
    (howes : Owes h.request .nothing h.job) :
    Handlers (Function.update debt c .nothing) (hs ++ [(c, h)]) := by
  have hnew := not_mem_of_lookup fresh
  refine ⟨?_, ?_⟩
  · rw [List.map_append]
    refine List.nodup_append.mpr ⟨hh.nodup, List.pairwise_singleton _ _, ?_⟩
    intro k hk k' hk' heq
    rw [heq, List.mem_singleton.mp hk'] at hk
    exact hnew hk
  · intro p hp
    rcases List.mem_append.mp hp with hold | hlast
    · have hne : p.1 ≠ c := fun heq => hnew (heq ▸ List.mem_map_of_mem hold)
      rw [Function.update_of_ne hne]
      exact hh.owes p hold
    · rw [List.mem_singleton.mp hlast, Function.update_self]
      exact howes

theorem owed_add (f : Debt → Nat) (zero : f .nothing = 0) (fresh : hs.lookup c = none) :
    owed f (Function.update debt c .nothing) (hs ++ [(c, h)]) = owed f debt hs := by
  have hnew := not_mem_of_lookup fresh
  have hrest : (hs.map (·.1)).map (fun k => f (Function.update debt c .nothing k)) =
      (hs.map (·.1)).map fun k => f (debt k) := by
    apply List.map_congr_left
    intro k hk
    have hne : k ≠ c := fun heq => hnew (heq ▸ hk)
    rw [Function.update_of_ne hne]
  rw [owed, List.map_append, List.map_append, List.sum_append, hrest]
  show _ + (f (Function.update debt c .nothing c) + 0) = _
  rw [Function.update_self, zero]
  rfl

/-! ## Verdicts -/

/-- The handlers are the same but for verdicts that some were told: what is known of the jobs,
    whatever the verdicts, is known of them still. -/
structure Kept (hs hs' : List (Caller × Handling)) : Prop where
  keys : hs'.map (·.1) = hs.map (·.1)
  jobs : ∀ Q : Caller → Http.Request → Api.Job → Prop, (∀ c r, Api.Job.Heeds (Q c r)) →
    (∀ p ∈ hs, Q p.1 p.2.request p.2.job) → ∀ p ∈ hs', Q p.1 p.2.request p.2.job

theorem Kept.refl (hs : List (Caller × Handling)) : Kept hs hs := ⟨rfl, fun _ _ hq => hq⟩

theorem Kept.trans {hs'' : List (Caller × Handling)} (hk : Kept hs hs') (hk' : Kept hs' hs'') :
    Kept hs hs'' :=
  ⟨hk'.keys.trans hk.keys, fun Q heeds hq => hk'.jobs Q heeds (hk.jobs Q heeds hq)⟩

/-- The handlers owe what they owed. -/
theorem Kept.handlers (hk : Kept hs hs') (debt : Caller → Debt) (hh : Handlers debt hs) :
    Handlers debt hs' := by
  refine ⟨?_, hk.jobs (fun c r => Owes r (debt c)) (fun c r => Owes.heeds r (debt c)) hh.owes⟩
  rw [hk.keys]
  exact hh.nodup

theorem Kept.owed_eq (hk : Kept hs hs') (f : Debt → Nat) (debt : Caller → Debt) :
    owed f debt hs' = owed f debt hs := by
  rw [owed, owed, hk.keys]

theorem Kept.length_eq (hk : Kept hs hs') : hs'.length = hs.length := by
  have hlength := congrArg List.length hk.keys
  rw [List.length_map, List.length_map] at hlength
  exact hlength

/-- A handler goes on as verdicts make it. -/
theorem kept_replace (found : hs.lookup c = some h) (request : h'.request = h.request)
    (told : ∀ Q, Api.Job.Heeds Q → Q h.job → Q h'.job) : Kept hs (replace c h' hs) := by
  refine ⟨keys_replace c h' hs, ?_⟩
  intro Q heeds hq p hp
  obtain ⟨q, hmem, rfl⟩ := List.mem_map.mp hp
  by_cases heq : q.1 = c
  · rw [if_pos heq]
    show Q c h'.request h'.job
    rw [request]
    exact told _ (heeds c h.request) (hq _ (mem_of_lookup found))
  · rw [if_neg heq]
    exact hq q hmem

/-- A handler that waits may be told what it waits for. -/
theorem exists_resume {next : Api.Job → Option Api.Job} (s : State) (c : Caller)
    (told : ∀ Q, Api.Job.Heeds Q → ∀ job job', next job = some job' → Q job → Q job') :
    ∃ hs, resume s c next = { s with handlings := hs } ∧ Kept s.handlings hs := by
  unfold resume
  split
  · rename_i h found
    split
    · split
      · rename_i job hjob
        exact ⟨_, rfl, kept_replace found rfl fun Q heeds hq => told Q heeds _ _ hjob hq⟩
      · exact ⟨s.handlings, rfl, .refl _⟩
    · exact ⟨s.handlings, rfl, .refl _⟩
  · exact ⟨s.handlings, rfl, .refl _⟩

theorem exists_noteSaver (s : State) (e : Saver.Event) : ∃ hs,
    noteSaver s e = { s with metrics := e.count s.metrics, handlings := hs } ∧
      Kept s.handlings hs := by
  cases e with
  | returned c v =>
    unfold noteSaver
    refine exists_resume s c ?_
    intro Q heeds job job' hjob hq
    split at hjob
    · cases hjob
      exact heeds.saved hq v
    · cases hjob
  | _ => exact ⟨s.handlings, rfl, .refl _⟩

theorem exists_notePublisher (s : State) (e : Publisher.Event) : ∃ hs,
    notePublisher s e = { s with handlings := hs } ∧ Kept s.handlings hs := by
  cases e with
  | returned c v =>
    unfold notePublisher
    refine exists_resume s c ?_
    intro Q heeds job job' hjob hq
    split at hjob
    · cases hjob
      exact heeds.sent hq v
    · cases hjob
  | _ => exact ⟨s.handlings, rfl, .refl _⟩

/-- A move of the saver changes the counters, and what handlers do next that wait for it. -/
theorem exists_afterSaver (s : State) (m : Saver.Moved) : ∃ hs,
    (afterSaver s m).1 =
      { s with saver := m.1, metrics := Saver.countAll s.metrics m.2, handlings := hs } ∧
      Kept s.handlings hs := by
  have hfold : ∀ (es : List Saver.Event) (s : State), ∃ hs,
      es.foldl noteSaver s = { s with metrics := Saver.countAll s.metrics es, handlings := hs } ∧
        Kept s.handlings hs := by
    intro es
    induction es with
    | nil => exact fun s => ⟨s.handlings, rfl, .refl _⟩
    | cons e es ih =>
      intro s
      obtain ⟨hs, hnote, hfirst⟩ := exists_noteSaver s e
      obtain ⟨hs', hrest, hkept⟩ := ih (noteSaver s e)
      rw [hnote] at hkept
      refine ⟨hs', ?_, hfirst.trans hkept⟩
      rw [List.foldl_cons, hrest, hnote]
      rfl
  exact hfold m.2 { s with saver := m.1 }

/-- A move of the publisher changes what handlers do next that wait for it. -/
theorem exists_afterPublisher (s : State) (m : Publisher.Moved) : ∃ hs,
    (afterPublisher s m).1 = { s with publisher := m.1, handlings := hs } ∧
      Kept s.handlings hs := by
  have hfold : ∀ (es : List Publisher.Event) (s : State), ∃ hs,
      es.foldl notePublisher s = { s with handlings := hs } ∧ Kept s.handlings hs := by
    intro es
    induction es with
    | nil => exact fun s => ⟨s.handlings, rfl, .refl _⟩
    | cons e es ih =>
      intro s
      obtain ⟨hs, hnote, hfirst⟩ := exists_notePublisher s e
      obtain ⟨hs', hrest, hkept⟩ := ih (notePublisher s e)
      rw [hnote] at hkept
      refine ⟨hs', ?_, hfirst.trans hkept⟩
      rw [List.foldl_cons, hrest, hnote]
  exact hfold m.2 { s with publisher := m.1 }

end OfferService.Service
