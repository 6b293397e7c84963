import OfferService.Proofs.Path
import OfferService.Saver.Step

/-
  OfferService.Proofs.Saver.History

  What the actions and events of a run tell: which calls to save were begun, which offers were
  pushed and by whom, which were stored, how flushes ended. A run of a saver is a path of its steps,
  taken by any parties in any order.
-/
namespace OfferService.Saver

/-! ## Calls -/

/-- The call to save that an action begins. -/
def Action.begun : Action → List (Caller × Offer)
  | .save c o => [(c, o)]
  | _ => []

/-- The calls to save that were begun, each by its caller. -/
def saves (as : List Action) : List (Caller × Offer) := as.flatMap Action.begun

@[simp] theorem saves_append (as bs : List Action) : saves (as ++ bs) = saves as ++ saves bs :=
  List.flatMap_append

@[simp] theorem saves_singleton (a : Action) : saves [a] = a.begun := List.flatMap_singleton _ _

/-! ## Events -/

deriving instance DecidableEq for Event

/-! ## What the event loop did -/

namespace Event

/-- The offer that was pushed, and whose it is. -/
def push : Event → List (Caller × Offer)
  | .pushed c o => [(c, o)]
  | _ => []

/-- The offer that was refused, and whose it is. -/
def refusal : Event → List (Caller × Offer)
  | .refused c o => [(c, o)]
  | _ => []

/-- The offers that were stored. -/
def storage : Event → List Offer
  | .callEnded batch (.ok ()) => batch
  | _ => []

/-- How a flush ended. -/
def flush : Event → List (Batch.Outcome Offer)
  | .flushEnded _ o => [o]
  | _ => []

/-- Does the event say nothing of the buffer, of batches, and of the beginning and the end of the
    event loop? -/
def isQuiet : Event → Bool
  | .initialized (.ok ()) | .pushed .. | .refused .. | .callStarted _ | .callEnded ..
  | .flushEnded .. | .exited _ => false
  | _ => true

end Event

/-- The offers pushed onto the buffer, in that order, each with its caller. -/
def pushes (es : List Event) : List (Caller × Offer) := es.flatMap Event.push

/-- The offers refused, in that order, each with its caller. -/
def refusals (es : List Event) : List (Caller × Offer) := es.flatMap Event.refusal

/-- The offers pushed onto the buffer, in that order. -/
def pushed (es : List Event) : List Offer := (pushes es).map (·.2)

/-- The batches that were stored, put together in the order of their calls. -/
def stored (es : List Event) : List Offer := es.flatMap Event.storage

/-- How the flushes ended, in that order. -/
def flushes (es : List Event) : List (Batch.Outcome Offer) := es.flatMap Event.flush

section

variable (es fs : List Event)

@[simp] theorem pushes_append : pushes (es ++ fs) = pushes es ++ pushes fs := List.flatMap_append

@[simp] theorem refusals_append : refusals (es ++ fs) = refusals es ++ refusals fs :=
  List.flatMap_append

@[simp] theorem pushed_append : pushed (es ++ fs) = pushed es ++ pushed fs := by
  rw [pushed, pushes_append, List.map_append]; rfl

@[simp] theorem stored_append : stored (es ++ fs) = stored es ++ stored fs := List.flatMap_append

@[simp] theorem flushes_append : flushes (es ++ fs) = flushes es ++ flushes fs :=
  List.flatMap_append

end

/-- Events tell of nothing that a function reads if it reads nothing from any of them. -/
theorem flatMap_eq_nil_of_forall {α : Type} {es : List Event} {p : Event → Bool} {b : Bool}
    {f : Event → List α} (h : ∀ e ∈ es, p e = b) (hf : ∀ e, p e = b → f e = []) :
    es.flatMap f = [] := by
  apply List.flatMap_eq_nil_iff.mpr
  intro e he
  exact hf e (h e he)

/-- All these events are quiet. -/
def Quiet (es : List Event) : Prop := ∀ e ∈ es, e.isQuiet = true

namespace Quiet

variable {es : List Event}

theorem pushes_eq_nil (h : Quiet es) : pushes es = [] :=
  flatMap_eq_nil_of_forall h fun e he => by cases e <;> first | rfl | cases he

theorem refusals_eq_nil (h : Quiet es) : refusals es = [] :=
  flatMap_eq_nil_of_forall h fun e he => by cases e <;> first | rfl | cases he

theorem stored_eq_nil (h : Quiet es) : stored es = [] :=
  flatMap_eq_nil_of_forall h fun e he => by cases e <;> first | rfl | cases he

theorem flushes_eq_nil (h : Quiet es) : flushes es = [] :=
  flatMap_eq_nil_of_forall h fun e he => by cases e <;> first | rfl | cases he

theorem pushed_eq_nil (h : Quiet es) : pushed es = [] := by
  rw [pushed, h.pushes_eq_nil, List.map_nil]

/-- An event that is not quiet is not among quiet ones. -/
theorem not_mem {e : Event} (h : Quiet es) (he : e.isQuiet = false) : e ∉ es := by
  intro hmem
  rw [h e hmem] at he
  cases he

end Quiet

/-! ## Events of callers -/

/-- Is this an event about a request or its caller? -/
def Event.isOfDesk : Event → Bool
  | .pushed .. | .refused .. | .returned .. | .abandoned _ => true
  | _ => false

/-- None of these events is about a request or its caller. -/
def Aside (es : List Event) : Prop := ∀ e ∈ es, e.isOfDesk = false

theorem aside_nil : Aside [] := by
  intro e he
  cases he

theorem Aside.pushes_eq_nil {es : List Event} (h : Aside es) : pushes es = [] :=
  flatMap_eq_nil_of_forall h fun e he => by cases e <;> first | rfl | cases he

theorem Aside.refusals_eq_nil {es : List Event} (h : Aside es) : refusals es = [] :=
  flatMap_eq_nil_of_forall h fun e he => by cases e <;> first | rfl | cases he

end OfferService.Saver
