import OfferService.Proofs.Storage.Arguments
import OfferService.Proofs.Storage.Fresh

/-
  OfferService.Proofs.Storage.Blame

  Whose fault it is that a call fails. If the database can be reached, and there are ids for all
  offers that a call creates, it fails only because of what it was asked for: a number is too large,
  the offer is not there, or a page has no size.
-/
namespace OfferService.Storage

open Query

/-- Is it the fault of who has asked? -/
def Error.isOfAsker : Error → Bool
  | .offerNotFound _ | .valueOutOfRange _ | .zeroPageSize => true
  | _ => false

namespace Operation

/-- Who looks for a live row fails only because there is none. -/
theorem eq_offerNotFound {α : Type} {q : Query α} {g : α → Answer} {s : Store} {id : UInt64}
    {e : Error} {found : Option Row} {hit : Row → α} {left : Row → Store}
    (hon : q.on s = match found with
      | some r => (.ok (hit r), left r)
      | none => (.error (.offerNotFound id), s))
    (failed : ((g <$> q).on s).1 = .error e) : e = .offerNotFound id := by
  rw [map_answer, hon] at failed
  cases found with
  | some r => cases failed
  | none =>
    cases failed
    rfl

/-- A call fails only because of what it asks for, if there is a database and there are ids. -/
theorem blames {op : Operation} {s : Store} {e : Error} (ready : s.access = .ready)
    (room : s.table.issued + op.needs ≤ maxColumn) (call : op.isCall = true)
    (failed : op.answer s = .error e) : e.isOfAsker = true := by
  have hahead := op.ahead_le_needs
  have bounded : s.table.issued ≤ maxColumn := by omega
  cases large : op.arguments.find? isTooLarge with
  | some n =>
    rw [refuses ready bounded large, if_pos (by omega)] at failed
    cases failed
    rfl
  | none =>
    -- All numbers fit, so offers can be created, and for anything else a row is looked for.
    have hfits : ∀ n ∈ op.arguments, n.toNat ≤ maxColumn := by
      simpa [isTooLarge] using large
    cases op with
    | create o =>
      have hstorable := storable_iff.mpr large
      obtain ⟨a, hok⟩ := (answer_of_storable ready bounded (.one o) (by simpa using hstorable)).1 room
      rw [hok] at failed
      cases failed
    | createAll os =>
      obtain ⟨a, hok⟩ :=
        (answer_of_storable ready bounded (.all os) (Store.all_storable_iff.mpr large)).1 room
      rw [hok] at failed
      cases failed
    | update o =>
      have hstorable : Storable o := by
        rw [arguments, List.find?_append, Option.or_eq_none_iff] at large
        exact storable_iff.mpr large.1
      rw [eq_offerNotFound (Store.update_on ready hstorable (hfits o.id (by simp [arguments]))) failed]
      rfl
    | remove id =>
      rw [eq_offerNotFound (Store.remove_on ready (hfits id (by simp [arguments]))) failed]
      rfl
    | insertRow r => cases call
    | describe id =>
      rw [eq_offerNotFound (Store.describe_on ready (hfits id (by simp [arguments]))) failed]
      rfl
    | list w =>
      rw [answer, query, map_answer] at failed
      by_cases empty : w.take = 0
      · rw [Store.list_of_empty empty] at failed
        cases failed
        rfl
      · rw [Store.list_on ready empty (hfits w.skip (by simp [arguments, empty]))] at failed
        cases failed

end Operation

end OfferService.Storage
