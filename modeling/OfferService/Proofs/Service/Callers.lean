import OfferService.Proofs.Service.Moves

/-
  OfferService.Proofs.Service.Callers

  A service as one caller sees it: what is being done for that caller, and what becomes of it in
  every action of anybody. Only its own handler and verdicts that reach it change that; `hear` says
  how the handler of a caller goes on, by what happens.
-/
namespace OfferService.Service

variable {s : State} {c k : Caller} {h h' : Handling} {a : Action} {m : Moved} {es fs : List Event}

/-! ## Verdicts -/

namespace Handling

/-- A handler that waits goes on, if what it is told is what it waits for. -/
def goOn (h : Handling) (next : Api.Job → Option Api.Job) : Handling :=
  if h.isWaiting then
    match next h.job with
    | some job => { h with job, isWaiting := false }
    | none => h
  else h

/-- What comes next for who waits for the saver. -/
def afterSave (v : Saver.Verdict) : Api.Job → Option Api.Job
  | .save _ next => some (next v)
  | _ => none

/-- What comes next for who waits for the publisher. -/
def afterPublish (v : Publisher.Verdict) : Api.Job → Option Api.Job
  | .publish _ _ next => some (next v)
  | _ => none

end Handling

/-- What an event tells the handler of a caller. -/
def Event.tell (c : Caller) (h : Handling) : Event → Handling
  | .saver (.returned k v) => if k = c then h.goOn (Handling.afterSave v) else h
  | .publisher (.returned k v) => if k = c then h.goOn (Handling.afterPublish v) else h
  | _ => h

/-- The handler of a caller after all these events. -/
def Handling.hear (c : Caller) (h : Handling) (es : List Event) : Handling :=
  es.foldl (Event.tell c) h

theorem Handling.hear_append (c : Caller) (h : Handling) (es fs : List Event) :
    h.hear c (es ++ fs) = (h.hear c es).hear c fs := List.foldl_append

/-- Who does not wait is told nothing. -/
theorem Handling.goOn_of_free (free : h.isWaiting = false) (next : Api.Job → Option Api.Job) :
    h.goOn next = h := by
  rw [goOn, if_neg (by simp [free])]

theorem Handling.hear_of_free (free : h.isWaiting = false) (es : List Event) :
    h.hear c es = h := by
  induction es with
  | nil => rfl
  | cons e es ih =>
    have hsame : e.tell c h = h := by
      unfold Event.tell
      split
      · rw [goOn_of_free free]
        exact ite_self h
      · rw [goOn_of_free free]
        exact ite_self h
      · rfl
    show (e.tell c h).hear c es = h
    rw [hsame]
    exact ih

/-- What is known of a job, whatever the verdicts, is known of it still. -/
theorem Handling.goOn_keeps {Q : Api.Job → Prop} {next : Api.Job → Option Api.Job}
    (told : ∀ job job', next job = some job' → Q job → Q job') (hq : Q h.job) :
    Q (h.goOn next).job := by
  unfold goOn
  split
  · split
    · rename_i job hjob
      exact told _ _ hjob hq
    · exact hq
  · exact hq

theorem Event.tell_keeps {Q : Api.Job → Prop} {e : Event}
    (saved : ∀ {o next}, Q (.save o next) → ∀ v, e = .saver (.returned c v) → Q (next v))
    (sent : ∀ {kind id next}, Q (.publish kind id next) → ∀ v, Q (next v)) (hq : Q h.job) :
    Q (e.tell c h).job := by
  unfold Event.tell
  split
  · split
    · rename_i k v heq
      refine Handling.goOn_keeps (fun job job' hjob hjobs => ?_) hq
      cases job <;> cases hjob
      exact saved hjobs v (by rw [heq])
    · exact hq
  · split
    · refine Handling.goOn_keeps (fun job job' hjob hjobs => ?_) hq
      cases job <;> cases hjob
      exact sent hjobs _
    · exact hq
  · exact hq

/-- The same of a job that goes on well with the verdicts of the saver that reach its caller. -/
theorem Handling.hear_keeps_of {Q : Api.Job → Prop} {es : List Event}
    (saved : ∀ {o next}, Q (.save o next) → ∀ v, .saver (.returned c v) ∈ es → Q (next v))
    (sent : ∀ {kind id next}, Q (.publish kind id next) → ∀ v, Q (next v)) (hq : Q h.job) :
    Q (h.hear c es).job := by
  induction es generalizing h with
  | nil => exact hq
  | cons e es ih =>
    refine ih (fun hsave v hmem => saved hsave v (List.mem_cons_of_mem _ hmem)) ?_
    refine Event.tell_keeps (fun hsave v he => saved hsave v ?_) sent hq
    rw [he]
    exact List.mem_cons_self

theorem Handling.hear_keeps {Q : Api.Job → Prop} (heeds : Api.Job.Heeds Q) (hq : Q h.job)
    (es : List Event) : Q (h.hear c es).job :=
  hear_keeps_of (fun hsave v _ => heeds.saved hsave v) heeds.sent hq

/-! ## Requests are kept -/

theorem Handling.request_goOn (h : Handling) (next : Api.Job → Option Api.Job) :
    (h.goOn next).request = h.request := by
  unfold goOn
  split
  · split <;> rfl
  · rfl

theorem Event.request_tell (e : Event) (c : Caller) (h : Handling) :
    (e.tell c h).request = h.request := by
  have hif {p : Prop} [Decidable p] (next : Api.Job → Option Api.Job) :
      (if p then h.goOn next else h).request = h.request := by
    split
    · exact h.request_goOn next
    · rfl
  unfold tell
  split
  · exact hif _
  · exact hif _
  · rfl

/-- A handler keeps its request, whatever it is told. -/
theorem Handling.request_hear (c : Caller) (h : Handling) (es : List Event) :
    (h.hear c es).request = h.request := by
  induction es generalizing h with
  | nil => rfl
  | cons e es ih => exact (ih _).trans (e.request_tell c h)

/-! ## Looking up a caller -/

theorem handling?_setHandling (found : s.handling? c = some h) (h' : Handling) :
    (s.setHandling c h').handling? c = some h' := lookup_replace found

theorem handling?_setHandling_of_ne (s : State) (h : Handling) (hne : k ≠ c) :
    (s.setHandling k h).handling? c = s.handling? c := lookup_replace_of_ne hne

theorem handling?_endHandling (s : State) (c : Caller) : (s.endHandling c).handling? c = none :=
  lookup_filter_self _ _

theorem handling?_endHandling_of_ne (s : State) (hne : k ≠ c) :
    (s.endHandling k).handling? c = s.handling? c := lookup_filter_of_ne hne

theorem handling?_receive (fresh : s.handling? c = none) (r : Http.Request) :
    (receive s c r).1.handling? c = some { request := r, job := Api.jobOf r } := by
  show (s.handlings ++ [_]).lookup c = _
  rw [List.lookup_append, show s.handlings.lookup c = none from fresh]
  exact List.lookup_cons_self

/-! ## Verdicts reach their callers -/

theorem handling?_resume (s : State) (k c : Caller) (next : Api.Job → Option Api.Job) :
    (resume s k next).handling? c =
      (s.handling? c).map fun h => if k = c then h.goOn next else h := by
  by_cases heq : k = c
  · subst heq
    unfold resume
    cases found : s.handling? k with
    | none => simpa using found
    | some h =>
      simp only [Option.map_some, if_true, Handling.goOn]
      split
      · cases next h.job with
        | some job => exact handling?_setHandling found _
        | none => exact found
      · exact found
  · simp only [if_neg heq, Option.map_id']
    unfold resume
    split
    · split
      · split
        · exact handling?_setHandling_of_ne s _ heq
        · rfl
      · rfl
    · rfl

theorem handling?_noteSaver (s : State) (c : Caller) (e : Saver.Event) :
    (noteSaver s e).handling? c = (s.handling? c).map fun h => Event.tell c h (.saver e) := by
  cases e with
  | returned k v =>
    unfold noteSaver
    rw [handling?_resume]
    rfl
  | _ => exact Option.map_id'.symm ▸ rfl

theorem handling?_notePublisher (s : State) (c : Caller) (e : Publisher.Event) :
    (notePublisher s e).handling? c =
      (s.handling? c).map fun h => Event.tell c h (.publisher e) := by
  cases e with
  | returned k v =>
    unfold notePublisher
    rw [handling?_resume]
    rfl
  | _ => exact Option.map_id'.symm ▸ rfl

/-- What the saver tells a caller changes what its handler does next, and nothing else does. -/
theorem handling?_afterSaver (s : State) (c : Caller) (m : Saver.Moved) :
    (afterSaver s m).1.handling? c = (s.handling? c).map (·.hear c (afterSaver s m).2) := by
  have hfold : ∀ (es : List Saver.Event) (s : State), (es.foldl noteSaver s).handling? c =
      (s.handling? c).map (·.hear c (es.map .saver)) := by
    intro es
    induction es with
    | nil => exact fun s => Option.map_id'.symm
    | cons e es ih =>
      intro s
      rw [List.foldl_cons, ih, handling?_noteSaver, Option.map_map]
      rfl
  exact hfold m.2 { s with saver := m.1 }

theorem handling?_afterPublisher (s : State) (c : Caller) (m : Publisher.Moved) :
    (afterPublisher s m).1.handling? c = (s.handling? c).map (·.hear c (afterPublisher s m).2) := by
  have hfold : ∀ (es : List Publisher.Event) (s : State), (es.foldl notePublisher s).handling? c =
      (s.handling? c).map (·.hear c (es.map .publisher)) := by
    intro es
    induction es with
    | nil => exact fun s => Option.map_id'.symm
    | cons e es ih =>
      intro s
      rw [List.foldl_cons, ih, handling?_notePublisher, Option.map_map]
      rfl
  exact hfold m.2 { s with publisher := m.1 }

/-! ## Actions of others -/

theorem handling?_handle_of_ne (s : State) (hne : k ≠ c) (h : Handling)
    (fault : Option Storage.Error) :
    (handle s k h fault).1.handling? c = (s.handling? c).map (·.hear c (handle s k h fault).2) := by
  have hwaits := handling?_setHandling_of_ne s { h with isWaiting := true } hne
  generalize hm : handle s k h fault = m
  cases handle_cases hm with
  | answer => exact (handling?_endHandling_of_ne s hne).trans Option.map_id'.symm
  | save => rw [handling?_afterSaver, hwaits]
  | publish => rw [handling?_afterPublisher, hwaits]
  | _ => exact (handling?_setHandling_of_ne _ _ hne).trans Option.map_id'.symm

/-- Whatever others do, a caller's handler goes on as verdicts make it. -/
theorem Move.handling?_eq (hmove : Move s a m) (found : s.handling? c = some h)
    (others : ∀ fault, a ≠ .handle c fault) : m.1.handling? c = some (h.hear c m.2) := by
  have hhear : m.1.handling? c = (s.handling? c).map (·.hear c m.2) := by
    cases hmove with
    | @receive k r fresh =>
      have hlast : (Service.receive s k r).1.handling? c = some h := by
        show (s.handlings ++ [_]).lookup c = some h
        rw [List.lookup_append, show s.handlings.lookup c = some h from found]
        rfl
      rw [hlast, found]
      rfl
    | @handle k h' fault found' =>
      exact handling?_handle_of_ne s (fun heq => others fault (by rw [heq])) h' fault
    | saver => exact handling?_afterSaver s c _
    | publisher => exact handling?_afterPublisher s c _
    | store =>
      rw [handling?_afterSaver]
      rfl
    | refuse =>
      rw [handling?_afterSaver]
      rfl
  rw [hhear, found]
  rfl

/-- A handler that does not wait goes on only by itself. -/
theorem Move.handling?_of_free (hmove : Move s a m) (found : s.handling? c = some h)
    (free : h.isWaiting = false) (others : ∀ fault, a ≠ .handle c fault) :
    m.1.handling? c = some h := by
  rw [hmove.handling?_eq found others, Handling.hear_of_free free]

/-- A caller of whom nothing is known stays so until a request of it arrives. -/
theorem Move.handling?_eq_none (hmove : Move s a m) (unknown : s.handling? c = none)
    (others : ∀ r, a ≠ .receive c r) : m.1.handling? c = none := by
  have hhear {t : State} {es : List Event}
      (h : m.1.handling? c = (t.handling? c).map (·.hear c es))
      (hs : t.handling? c = s.handling? c) : m.1.handling? c = none := by
    rw [h, hs, unknown]
    rfl
  cases hmove with
  | @receive k r =>
    have hne : (c == k) = false := beq_false_of_ne fun heq => others r (by rw [heq])
    show (s.handlings ++ [_]).lookup c = none
    rw [List.lookup_append, show s.handlings.lookup c = none from unknown, List.lookup_cons, hne]
    rfl
  | @handle k h' fault found' =>
    have hne : k ≠ c := by
      intro heq
      rw [heq, unknown] at found'
      cases found'
    exact hhear (handling?_handle_of_ne s hne h' fault) rfl
  | saver => exact hhear (handling?_afterSaver s c _) rfl
  | publisher => exact hhear (handling?_afterPublisher s c _) rfl
  | store => exact hhear (handling?_afterSaver _ c _) rfl
  | refuse => exact hhear (handling?_afterSaver _ c _) rfl

end OfferService.Service
