import OfferService.Proofs.Lookup
import OfferService.Proofs.Publisher.Moves

/-
  OfferService.Proofs.Publisher.Senders

  What callers of send are told, and who waits for whom to close the publisher. A caller here is one
  call: no caller begins two. Then each message that was handed over is in one place: it was put
  into the queue, it is still with its caller, or it is gone for good, as is that of every caller
  who was turned away.
-/
namespace OfferService.Publisher

variable {s t : State} {es new : List Event} {a : Action}

/-! ## Where a message is -/

/-- Each message that was handed over is in one place, and whoever is turned away finds its message
    among those that are gone. -/
structure Accounts (calls : List (Caller × Envelope)) (es : List Event) (s : State)
    (gone : List (Caller × Envelope)) : Prop where
  perm : (queued es ++ s.pending ++ gone).Perm calls
  turnedAway : ∀ c, .returned c (.error .closed) ∈ es → c ∈ gone.map (·.1)

namespace Accounts

variable {calls gone : List (Caller × Envelope)}

/-- Callers who wait for a place are told apart if all callers are. -/
theorem pending_nodup (h : Accounts calls es s gone) (hn : (calls.map (·.1)).Nodup) :
    (s.pending.map (·.1)).Nodup := by
  have hall := (h.perm.map (·.1)).nodup_iff.mpr hn
  have hsub : s.pending.Sublist (queued es ++ s.pending ++ gone) :=
    (List.sublist_append_right _ _).trans (List.sublist_append_left _ _)
  exact (hsub.map _).nodup hall

/-- The message of a caller who was turned away was not put into the queue. -/
theorem not_queued {c : Caller} (h : Accounts calls es s gone) (hn : (calls.map (·.1)).Nodup)
    (hc : .returned c (.error .closed) ∈ es) : c ∉ (queued es).map (·.1) := by
  have hall := (h.perm.map (·.1)).nodup_iff.mpr hn
  rw [List.append_assoc, List.map_append] at hall
  intro hqueued
  have hgone : c ∈ (s.pending ++ gone).map (·.1) := by
    rw [List.map_append]
    exact List.mem_append_right _ (h.turnedAway c hc)
  exact (List.nodup_append.mp hall).2.2 c hqueued c hgone rfl

/-- Some offers have moved from one place to another, and the events tell of nobody turned away but
    those whose messages are gone now. -/
theorem move {begun left : List (Caller × Envelope)} (h : Accounts calls es s gone)
    (perm : (s.pending ++ begun).Perm (queued new ++ t.pending ++ left))
    (turned : ∀ c, .returned c (.error .closed) ∈ new → c ∈ left.map (·.1)) :
    Accounts (calls ++ begun) (es ++ new) t (gone ++ left) := by
  refine ⟨?_, ?_⟩
  · -- A message is in as many places as before, now that some have moved.
    apply List.perm_iff_count.mpr
    intro p
    have hbefore := h.perm.count_eq p
    have hnow := perm.count_eq p
    simp only [queued_append, List.count_append] at hbefore hnow ⊢
    omega
  · intro c hc
    rw [List.map_append]
    rcases List.mem_append.mp hc with hold | hnow
    · exact List.mem_append_left _ (h.turnedAway c hold)
    · exact List.mem_append_right _ (turned c hnow)

/-- Nothing is handed over, and nobody is turned away. -/
theorem rest (h : Accounts calls es s gone) (pending : t.pending = s.pending)
    (noQueued : queued new = []) (turned : ∀ c, .returned c (.error .closed) ∉ new) :
    Accounts (calls ++ []) (es ++ new) t (gone ++ []) := by
  refine h.move ?_ (fun c hc => absurd hc (turned c))
  rw [noQueued, pending, List.append_nil, List.append_nil]
  exact .refl _

theorem step (h : Accounts calls es s gone) (hn : (calls.map (·.1)).Nodup)
    (hstep : Publisher.step s a = some (t, new)) :
    ∃ gone', Accounts (calls ++ a.begun) (es ++ new) t gone' := by
  have hpending := h.pending_nodup hn
  cases move_cases hstep with
  | @turnAway c e =>
    refine ⟨gone ++ [(c, e)], h.move (.refl _) ?_⟩
    intro k hk
    cases List.mem_singleton.mp hk
    exact List.mem_cons_self
  | @enter c e =>
    refine ⟨gone ++ [], h.move ?_ (by simp)⟩
    show (s.pending ++ [(c, e)]).Perm ([(c, e)] ++ s.pending ++ [])
    rw [List.append_nil]
    exact List.perm_append_comm
  | @wait c e =>
    refine ⟨gone ++ [], h.move ?_ (by simp)⟩
    rw [List.append_nil]
    exact .refl _
  | @withdraw c e found =>
    -- Callers are told apart, so it is this one's message alone that is gone.
    refine ⟨gone ++ [(c, e)], h.move ?_ ?_⟩
    · show (s.pending ++ []).Perm ((s.pending.filter fun p : Caller × Envelope => p.1 ≠ c) ++
        [(c, e)])
      rw [List.append_nil]
      exact (perm_of_lookup hpending found).trans (List.perm_append_singleton _ _).symm
    · intro k hk
      cases List.mem_singleton.mp hk
      exact List.mem_cons_self
  | @letIn c e found =>
    refine ⟨gone ++ [], h.move ?_ (by simp)⟩
    show (s.pending ++ []).Perm ([(c, e)] ++
      (s.pending.filter fun p : Caller × Envelope => p.1 ≠ c) ++ [])
    rw [List.append_nil, List.append_nil]
    exact perm_of_lookup hpending found
  | closeFirst => exact ⟨gone ++ [], h.rest rfl rfl (by simp)⟩
  | closeLater => exact ⟨gone ++ [], h.rest rfl rfl (by simp)⟩
  | closeEnd => exact ⟨gone ++ [], h.rest rfl rfl (by simp)⟩
  | drop => exact ⟨gone ++ [], h.rest rfl rfl (by simp)⟩
  | shut => exact ⟨gone ++ [], h.rest rfl rfl (by simp)⟩
  | take => exact ⟨gone ++ [], h.rest rfl rfl (by simp)⟩
  | exit => exact ⟨gone ++ [], h.rest rfl rfl (by simp)⟩
  | retry => exact ⟨gone ++ [], h.rest rfl rfl (by simp)⟩
  | deliver => exact ⟨gone ++ [], h.rest rfl rfl (by simp)⟩
  | fail => exact ⟨gone ++ [], h.rest rfl rfl (by simp)⟩
  | giveUp => exact ⟨gone ++ [], h.rest rfl rfl (by simp)⟩

end Accounts

/-- A call to send returns well when its message is put into the queue, and only then. -/
theorem thanked_eq_of_step (h : step s a = some (t, new)) :
    thanked new = (queued new).map (·.1) := by
  cases move_cases h <;> rfl

/-! ## Who closes the publisher -/

/-- Only the first caller who closes the publisher waits for the task, and returns when that has
    exited. -/
structure Closers (es : List Event) (s : State) : Prop where
  nobody : s.hasCloser = false ↔ closings es = []
  known : ∀ c, .closeReturned c ∈ es → c ∈ closings es
  owner : ∀ c, s.closer = some c → (closings es).head? = some c
  first : ∀ c rest, closings es = c :: rest → c ∉ rest → .closeReturned c ∈ es →
    s.work = .idle .exited

/-- A task that has exited does nothing any more. -/
theorem exited_of_step (h : step s a = some (t, new)) (exited : s.work = .idle .exited) :
    t.work = .idle .exited := by
  cases move_cases h with
  -- All moves of the task and the sink ask for another state than this.
  | shut idle => rw [exited] at idle; cases idle
  | take idle alive => rw [exited] at idle; cases idle; exact absurd rfl alive
  | exit => rfl
  | retry pausing => rw [exited] at pausing; cases pausing
  | deliver busy => rw [exited] at busy; cases busy
  | fail busy => rw [exited] at busy; cases busy
  | giveUp busy => rw [exited] at busy; cases busy
  | _ => exact exited

namespace Closers

/-- Nobody begins or ends a call to close. -/
theorem rest (h : Closers es s) (hstep : Publisher.step s a = some (t, new))
    (hasCloser : t.hasCloser = s.hasCloser) (closer : t.closer = s.closer)
    (noClosings : closings new = []) (noReturns : ∀ c, .closeReturned c ∉ new) :
    Closers (es ++ new) t := by
  have hclosings : closings (es ++ new) = closings es := by
    rw [closings_append, noClosings, List.append_nil]
  have hold : ∀ c, .closeReturned c ∈ es ++ new → .closeReturned c ∈ es := by
    intro c hc
    exact (List.mem_append.mp hc).resolve_right (noReturns c)
  refine ⟨?_, ?_, ?_, ?_⟩
  · rw [hclosings, hasCloser]
    exact h.nobody
  · intro c hc
    rw [hclosings]
    exact h.known c (hold c hc)
  · intro c hc
    rw [hclosings]
    rw [closer] at hc
    exact h.owner c hc
  · intro c rest heq hc hreturned
    rw [hclosings] at heq
    have exited := h.first c rest heq hc (hold c hreturned)
    exact exited_of_step hstep exited

theorem begin (h : Closers es s) {c : Caller} (first : s.hasCloser = false) :
    Closers (es ++ [.closeBegan c])
      { s with shutdown := true, hasCloser := true, closer := some c } := by
  -- Nobody has begun to close the publisher before, so no such call has returned.
  have hnone := h.nobody.mp first
  have hreturned : ∀ k, .closeReturned k ∉ es ++ [.closeBegan c] := by
    intro k hk
    rcases List.mem_append.mp hk with hold | hnew
    · have hmem := h.known k hold
      rw [hnone] at hmem
      cases hmem
    · cases List.mem_singleton.mp hnew
  have hclosings : closings (es ++ [.closeBegan c]) = [c] := by
    rw [closings_append, hnone]
    rfl
  refine ⟨?_, fun k hk => absurd hk (hreturned k), ?_, fun k _ _ _ hk => absurd hk (hreturned k)⟩
  · rw [hclosings]
    simp
  · intro k hk
    cases hk
    rw [hclosings]
    rfl

theorem join (h : Closers es s) {c : Caller} (later : s.hasCloser = true) :
    Closers (es ++ [.closeBegan c, .closeReturned c]) { s with shutdown := true } := by
  have hclosings : closings (es ++ [.closeBegan c, .closeReturned c]) = closings es ++ [c] := by
    rw [closings_append]
    rfl
  have hsome : closings es ≠ [] := by
    intro hnone
    rw [h.nobody.mpr hnone] at later
    cases later
  refine ⟨?_, ?_, ?_, ?_⟩
  · rw [hclosings]
    simp [later]
  · intro k hk
    rw [hclosings]
    rcases List.mem_append.mp hk with hold | hnew
    · exact List.mem_append_left _ (h.known k hold)
    · have hkc : k = c := by simpa using hnew
      rw [hkc]
      exact List.mem_append_right _ List.mem_cons_self
  · intro k hk
    have hhead := h.owner k hk
    rw [hclosings, List.head?_append, hhead]
    rfl
  · -- Whoever joins is not the first one, so it is not its return that is asked for.
    intro k rest heq hk hreturned
    obtain ⟨k₀, rest₀, hes⟩ := List.exists_cons_of_ne_nil hsome
    rw [hclosings, hes, List.cons_append] at heq
    obtain ⟨rfl, rfl⟩ := List.cons.inj heq
    have hne : k₀ ≠ c := by
      intro heq
      exact hk (List.mem_append_right _ (List.mem_singleton.mpr heq))
    have hold : .closeReturned k₀ ∈ es := by simpa [hne] using hreturned
    exact h.first k₀ rest₀ hes (fun hmem => hk (List.mem_append_left _ hmem)) hold

theorem finish (h : Closers es s) {c : Caller} {log : List Log.Entry} (owner : s.closer = some c)
    (exited : s.work = .idle .exited) :
    Closers (es ++ [.logged log, .closeReturned c]) { s with closer := none } := by
  have hclosings : closings (es ++ [.logged log, .closeReturned c]) = closings es := by
    rw [closings_append]
    exact List.append_nil _
  refine ⟨?_, ?_, nofun, fun _ _ _ _ _ => exited⟩
  · rw [hclosings]
    exact h.nobody
  · intro k hk
    rw [hclosings]
    rcases List.mem_append.mp hk with hold | hnew
    · exact h.known k hold
    · have hkc : k = c := by simpa using hnew
      rw [hkc]
      exact List.mem_of_head? (h.owner c owner)

theorem step (h : Closers es s) (hstep : Publisher.step s a = some (t, new)) :
    Closers (es ++ new) t := by
  cases move_cases hstep with
  | closeFirst first => exact h.begin first
  | closeLater later => exact h.join later
  | closeEnd owner exited => exact h.finish owner exited
  | _ => exact h.rest hstep rfl rfl rfl (by simp)

end Closers

end OfferService.Publisher
