/-
  OfferService.Proofs.Path

  Runs of a step function. `Path step s as es t` says that the actions `as`, taken in that order
  from `s` on, lead to `t`, and that the events `es` happen on the way. Who takes which action is
  left open, so what holds of every path holds in whatever order the parties move.
-/
namespace OfferService

variable {σ α ε : Type} {step : σ → α → Option (σ × List ε)} {s t u : σ} {as bs : List α}
  {es fs : List ε}

/-- The actions `as` lead from `s` to a state, with the events on the way. -/
inductive Path (step : σ → α → Option (σ × List ε)) (s : σ) : List α → List ε → σ → Prop
  | refl : Path step s [] [] s
  | tail {as es t a u new} : Path step s as es t → step t a = some (u, new) →
      Path step s (as ++ [a]) (es ++ new) u

/-- One action is a path. -/
theorem Path.single {a : α} (h : step s a = some (t, es)) : Path step s [a] es t :=
  Path.tail .refl h

/-- A path goes on from where another one ended. -/
theorem Path.trans (h : Path step s as es t) (h' : Path step t bs fs u) :
    Path step s (as ++ bs) (es ++ fs) u := by
  induction h' with
  | refl => rw [List.append_nil, List.append_nil]; exact h
  | tail _ hstep ih =>
    rw [← List.append_assoc, ← List.append_assoc]
    exact ih.tail hstep

/-- What holds at the beginning, and is kept by every action, holds at the end of every path. -/
theorem Path.invariant {P : List α → List ε → σ → Prop} (h : Path step s as es t)
    (base : P [] [] s)
    (kept : ∀ {as es t a u new}, Path step s as es t → P as es t → step t a = some (u, new) →
      P (as ++ [a]) (es ++ new) u) : P as es t := by
  induction h with
  | refl => exact base
  | tail hpath hstep ih => exact kept hpath ih hstep

/-- A path leads through a state before each of its actions, and goes on after it. -/
theorem Path.split {a : α} (h : Path step s (as ++ a :: bs) es t) :
    ∃ old u new v later, Path step s as old u ∧ step u a = some (v, new) ∧
      Path step v bs later t ∧ es = old ++ new ++ later := by
  generalize has : as ++ a :: bs = cs at h
  induction h generalizing bs with
  | refl => simp at has
  | @tail cs es t b u new hpath hstep ih =>
    rcases List.eq_nil_or_concat bs with rfl | ⟨bs, b', rfl⟩
    · obtain ⟨rfl, rfl⟩ := List.append_singleton_inj.mp has
      exact ⟨es, t, new, u, [], hpath, hstep, .refl, (List.append_nil _).symm⟩
    · have hlast : (as ++ a :: bs) ++ [b'] = cs ++ [b] := by simpa using has
      obtain ⟨hinit, rfl⟩ := List.append_singleton_inj.mp hlast
      obtain ⟨old, v, now, w, later, hither, hnow, honward, rfl⟩ := ih hinit
      rw [List.concat_eq_append]
      exact ⟨old, v, now, w, later ++ new, hither, hnow, honward.tail hstep,
        (List.append_assoc _ _ _)⟩

/-- The same actions lead to the same state. -/
theorem Path.unique (h : Path step s as es t) (h' : Path step s as fs u) : es = fs ∧ t = u := by
  induction h generalizing fs u with
  | refl =>
    generalize has : ([] : List α) = bs at h'
    cases h' with
    | refl => exact ⟨rfl, rfl⟩
    | tail => simp at has
  | @tail as es t a v new hpath hstep ih =>
    generalize has : as ++ [a] = bs at h'
    cases h' with
    | refl => simp at has
    | @tail as' es' t' a' v' new' hpath' hstep' =>
      obtain ⟨rfl, rfl⟩ := List.append_singleton_inj.mp has
      obtain ⟨rfl, rfl⟩ := ih hpath'
      rw [hstep] at hstep'
      cases hstep'
      exact ⟨rfl, rfl⟩

/-- What each action leaves alone is at the end what it was at the beginning. -/
theorem Path.eq_of_forall {β : Type} {f : σ → β} (h : Path step s as es t)
    (kept : ∀ before a after es' u v new, as = before ++ a :: after → Path step s before es' u →
      step u a = some (v, new) → f v = f u) : f t = f s := by
  induction h with
  | refl => rfl
  | @tail as es t a u new hpath hstep ih =>
    rw [kept as a [] es t u new rfl hpath hstep]
    apply ih
    intro before b after es' v w now has
    exact kept before b (after ++ [a]) es' v w now (by rw [has, List.append_assoc]; rfl)

/-- A path to `t` on which `e` happens, with other events before and after it: it leads to the step
    that brings `e` about, and goes on from there. -/
inductive Passes (step : σ → α → Option (σ × List ε)) (s : σ) (e : ε) (t : σ) :
    List ε → List ε → Prop
  | mk {as old u a left right v bs new} (hither : Path step s as old u)
      (now : step u a = some (v, left ++ e :: right)) (onward : Path step v bs new t) :
      Passes step s e t (old ++ left) (right ++ new)

/-- An event of a path happens in one of its steps. -/
theorem Path.passes {before later : List ε} {e : ε}
    (h : Path step s as (before ++ e :: later) t) : Passes step s e t before later := by
  generalize hes : before ++ e :: later = es at h
  induction h generalizing later with
  | refl => simp at hes
  | @tail as es t a u new hpath hstep ih =>
    rcases List.append_eq_append_iff.mp hes with ⟨mid, rfl, hmid⟩ | ⟨mid, rfl, hnew⟩
    · cases mid with
      | nil =>
        -- The event is the first one of the last step.
        have hfirst : new = [] ++ e :: later := hmid.symm
        rw [hfirst] at hstep
        have hpasses := Passes.mk hpath hstep .refl
        rw [List.append_nil, List.append_nil, List.append_nil] at hpasses
        exact hpasses
      | cons f mid =>
        -- The event has happened before the last step.
        obtain ⟨rfl, rfl⟩ := List.cons.inj hmid
        cases ih rfl with
        | @mk bs old v a' left right w cs later' hither now onward =>
          have hpasses := Passes.mk hither now (onward.tail hstep)
          rw [← List.append_assoc] at hpasses
          exact hpasses
    · rw [hnew] at hstep
      have hpasses := Passes.mk hpath hstep .refl
      rw [List.append_nil] at hpasses
      exact hpasses

/-- What `f` reads from each action in the state where it is taken. -/
def gathered {β : Type} (step : σ → α → Option (σ × List ε)) (f : σ → α → List β) (s : σ) :
    List α → List β
  | [] => []
  | a :: as =>
    match step s a with
    | some (t, _) => f s a ++ gathered step f t as
    | none => []

theorem gathered_append {β : Type} {f : σ → α → List β} (h : Path step s as es t) (bs : List α) :
    gathered step f s (as ++ bs) = gathered step f s as ++ gathered step f t bs := by
  induction h generalizing bs with
  | refl => rfl
  | @tail as es t a u new hpath hstep ih =>
    have hlast (cs : List α) : gathered step f t (a :: cs) = f t a ++ gathered step f u cs := by
      rw [gathered, hstep]
    rw [List.append_assoc, List.singleton_append, ih, ih [a], hlast, hlast [], gathered,
      List.append_nil, List.append_assoc]

/-- The last action adds what is read from it. -/
theorem gathered_concat {β : Type} {f : σ → α → List β} {a : α} {new : List ε}
    (h : Path step s as es t) (hstep : step t a = some (u, new)) :
    gathered step f s (as ++ [a]) = gathered step f s as ++ f t a := by
  have hlast : gathered step f t [a] = f t a := by
    rw [gathered, hstep]
    exact List.append_nil _
  rw [gathered_append h, hlast]

/-- What was read on a path was read from one of its actions, which the path leads to. -/
theorem Path.of_mem_gathered {β : Type} {f : σ → α → List β} {b : β} (h : Path step s as es t)
    (hb : b ∈ gathered step f s as) : ∃ before u a v old new later, Path step s before old u ∧
      step u a = some (v, new) ∧ b ∈ f u a ∧ es = old ++ new ++ later := by
  induction h with
  | refl => cases hb
  | @tail as es t a u new hpath hstep ih =>
    rw [gathered_concat hpath hstep] at hb
    rcases List.mem_append.mp hb with hb | hb
    · obtain ⟨before, v, a', w, old, now, later, hbefore, hnow, hf, rfl⟩ := ih hb
      exact ⟨before, v, a', w, old, now, later ++ new, hbefore, hnow, hf,
        List.append_assoc _ _ _⟩
    · exact ⟨as, t, a, u, es, new, [], hpath, hstep, hb, (List.append_nil _).symm⟩

/-- The actions that `p` marks in the states where they are taken. -/
def marked (step : σ → α → Option (σ × List ε)) (p : σ → α → Bool) (s : σ) : List α → List α
  | [] => []
  | a :: as =>
    match step s a with
    | some (t, _) => (if p s a then [a] else []) ++ marked step p t as
    | none => []

theorem marked_eq_gathered (p : σ → α → Bool) (s : σ) (as : List α) :
    marked step p s as = gathered step (fun s a => if p s a then [a] else []) s as := by
  induction as generalizing s with
  | nil => rfl
  | cons a as ih =>
    unfold marked gathered
    split
    · rw [ih]
    · rfl

theorem marked_append {p : σ → α → Bool} (h : Path step s as es t) (bs : List α) :
    marked step p s (as ++ bs) = marked step p s as ++ marked step p t bs := by
  rw [marked_eq_gathered, marked_eq_gathered, marked_eq_gathered, gathered_append h]

/-- Takes actions one after another, if each can be taken. -/
def follow (step : σ → α → Option (σ × List ε)) (s : σ) : List α → Option (σ × List ε)
  | [] => some (s, [])
  | a :: as =>
    match step s a with
    | some (t, es) => (follow step t as).map fun m => (m.1, es ++ m.2)
    | none => none

theorem path_of_follow (h : follow step s as = some (t, es)) : Path step s as es t := by
  induction as generalizing s es with
  | nil => cases h; exact .refl
  | cons a as ih =>
    -- Actions are followed from the first one on, while a path grows at its end.
    unfold follow at h
    split at h
    · rename_i u new hstep
      obtain ⟨⟨t', fs⟩, hfollow, hm⟩ := Option.map_eq_some_iff.mp h
      cases hm
      exact (Path.single hstep).trans (ih hfollow)
    · cases h

theorem follow_cons (s : σ) (a : α) (as : List α) : follow step s (a :: as) =
    (step s a).bind fun m => (follow step m.1 as).map fun n => (n.1, m.2 ++ n.2) := by
  rw [follow]
  cases step s a with
  | none => rfl
  | some m => rfl

theorem follow_append (s : σ) (as bs : List α) : follow step s (as ++ bs) =
    (follow step s as).bind fun m => (follow step m.1 bs).map fun n => (n.1, m.2 ++ n.2) := by
  induction as generalizing s with
  | nil => simp [follow]
  | cons a as ih =>
    rw [List.cons_append, follow_cons, follow_cons]
    cases step s a with
    | none => rfl
    | some m =>
      simp only [Option.bind_some, ih]
      cases follow step m.1 as with
      | none => rfl
      | some n => simp [Function.comp_def]

/-- A path is what following its actions leads to. -/
theorem follow_of_path (h : Path step s as es t) : follow step s as = some (t, es) := by
  induction h with
  | refl => rfl
  | tail _ hstep ih => simp [follow_append, ih, follow, hstep]

end OfferService
