import OfferService.Proofs.Lookup
import OfferService.Proofs.Saver.Conservation
import OfferService.Proofs.Saver.Desk

/-
  OfferService.Proofs.Saver.Origins

  Where the offers of a saver come from. Nobody at its desk makes one up: whatever waits for a place,
  is in the mailbox or was pushed is an offer that a call to save has brought, with its caller. And
  what the event loop has was pushed. So whatever is known of the offers of all calls is known of all
  that a saver has.
-/
namespace OfferService.Saver

variable {d d' : Desk} {begun : List (Caller × Offer)} {now : List Event} {p : Caller × Offer}

namespace Desk

/-- The offers at the desk, each with its caller: those that wait for a place, and those in the
    mailbox. -/
def offers (d : Desk) : List (Caller × Offer) := d.pending ++ d.items

theorem offers_leave_subset (d : Desk) (c : Caller) : (d.leave c).offers ⊆ d.offers :=
  List.append_subset.mpr ⟨List.subset_append_of_subset_left _ List.filter_sublist.subset,
    List.subset_append_right _ _⟩

theorem offers_handOver_subset (d : Desk) (c : Caller) (o : Offer) :
    (d.handOver c o).offers ⊆ d.offers ++ [(c, o)] := by
  intro p hp
  rw [offers, handOver, ← List.append_assoc] at hp
  exact hp

/-- What is at the desk after an action, or was pushed by it, was there before or was brought by a
    call that the action begins. -/
theorem Step.origin (h : Desk.Step d begun now d') :
    d'.offers ++ pushes now ⊆ d.offers ++ begun := by
  have hsame {es : List Event} {e : Desk} (silent : pushes es = []) (fewer : e.offers ⊆ d.offers) :
      e.offers ++ pushes es ⊆ d.offers ++ begun := by
    rw [silent, List.append_nil]
    exact List.subset_append_of_subset_left _ fewer
  cases h with
  | rest aside => exact hsame aside.pushes_eq_nil (List.Subset.refl _)
  | shut aside => exact hsame aside.pushes_eq_nil (List.Subset.refl _)
  | wake aside => exact hsame aside.pushes_eq_nil (List.Subset.refl _)
  | drain => exact hsame rfl (List.Subset.refl _)
  | exit aside => exact hsame aside.pushes_eq_nil (List.Subset.refl _)
  | @push c o rest es aside _ first =>
    have hpushes : pushes (.pushed c o :: es) = [(c, o)] :=
      congrArg ((c, o) :: ·) aside.pushes_eq_nil
    rw [hpushes, offers, reply_pending, reply_items, List.append_nil]
    show d.pending ++ rest ++ [(c, o)] ⊆ d.pending ++ d.items
    rw [first]
    simp
  | @refuse c o rest n _ first =>
    refine hsame rfl ?_
    rw [offers, reply_pending, reply_items, offers, first]
    simp
  | turnAway => exact hsame rfl (List.Subset.refl _)
  | @enter c o =>
    rw [show pushes [] = [] from rfl, List.append_nil]
    exact offers_handOver_subset d c o
  | @queue c o =>
    show d.pending ++ [(c, o)] ++ d.items ++ [] ⊆ d.pending ++ d.items ++ [(c, o)]
    simp
  | @letIn c o found =>
    -- The offer that goes into the mailbox has waited for a place.
    have hwaited : (c, o) ∈ d.offers := List.mem_append_left _ (mem_of_lookup found)
    refine hsame rfl (List.Subset.trans (offers_handOver_subset (d.leave c) c o) ?_)
    exact List.append_subset.mpr
      ⟨offers_leave_subset d c, List.cons_subset.mpr ⟨hwaited, List.nil_subset _⟩⟩
  | @withdraw c o e _ gone =>
    refine hsame ?_ (offers_leave_subset d c)
    rcases gone with rfl | rfl <;> rfl
  | @collect c v e _ gone =>
    refine hsame ?_ (List.Subset.refl _)
    rcases gone with rfl | rfl <;> rfl
  | @forsake c e _ gone =>
    refine hsame ?_ (List.Subset.refl _)
    rcases gone with rfl | ⟨rfl, -⟩ <;> rfl

end Desk

section

variable {capacity groups : Nat} {ticker : Ticker} {s₀ s : State} {as : List Action}
  {es : List Event}

/-- In every run from a new saver, what is at the desk or was pushed was brought by a call. -/
theorem origin_of_path (h : Path step s₀ as es s) (hnew : new capacity groups ticker = .ok s₀) :
    s.desk.offers ++ pushes es ⊆ saves as := by
  refine desk_induction h (P := fun calls es d => d.offers ++ pushes es ⊆ calls) hnew
    (List.Subset.refl _) ?_
  intro calls es d begun now d' _ ih hstep
  obtain ⟨hdesk, hpushed⟩ := List.append_subset.mp ih
  obtain ⟨hdesk', hpushed'⟩ := List.append_subset.mp hstep.origin
  have hnow : d.offers ++ begun ⊆ calls ++ begun :=
    List.append_subset.mpr ⟨List.subset_append_of_subset_left _ hdesk,
      List.subset_append_right _ _⟩
  rw [pushes_append]
  have hpushes : pushes es ++ pushes now ⊆ calls ++ begun := List.append_subset.mpr
    ⟨List.subset_append_of_subset_left _ hpushed, List.Subset.trans hpushed' hnow⟩
  exact List.append_subset.mpr ⟨List.Subset.trans hdesk' hnow, hpushes⟩

/-- So was what the event loop has: in the flush under way, or in the buffer. -/
theorem mem_saves_of_path {o : Offer} (h : Path step s₀ as es s)
    (hnew : new capacity groups ticker = .ok s₀) (ho : o ∈ s.core.kept) :
    ∃ c, (c, o) ∈ saves as := by
  have hpushed : o ∈ pushed es := by
    rw [pushed_eq_of_new h hnew]
    exact List.mem_append_right _ ho
  obtain ⟨⟨c, o⟩, hp, rfl⟩ := List.mem_map.mp hpushed
  exact ⟨c, origin_of_path h hnew (List.mem_append_right _ hp)⟩

end

end OfferService.Saver
