import OfferService.Schedule

/-
  OfferService.Proofs.Schedule

  What can be said of any tasks that share a state and a clock: what all their moves keep, and when
  a wait is over before the clock goes on.
-/
namespace OfferService.Run

variable {σ τ : Type} [BEq τ] {sys : System σ τ} {r : Run σ τ}

/-- What every move of every task keeps holds when the tasks have moved until they wait. -/
theorem settle_state {P : σ → Prop}
    (kept : ∀ {now t s s'}, P s → sys.move now t s = some s' → P s') (h : P r.state) : P (r.settle sys).state := by
  unfold settle
  generalize moveLimit = fuel
  induction fuel generalizing r with
  | zero => exact h
  | succ fuel ih =>
    unfold settle.go
    split
    · rename_i r' hstep
      apply ih
      unfold step at hstep
      split at hstep
      · cases hstep
      · split at hstep
        · rename_i s' hmove
          cases hstep
          exact kept h hmove
        · cases hstep
          exact h
    · exact h

/-- A wait is over when the condition holds once all tasks wait. -/
theorem settleUntil_eq {p : σ → Bool} (h : p (r.settle sys).state = true) :
    r.settleUntil sys p = r.settle sys := by
  have hgo (fuel : Nat) : settleUntil.go sys p (fuel + 1) r = r.settle sys := by
    simp only [settleUntil.go, h, if_true]
  exact hgo (moveLimit - 1)

theorem settleUntilOr_eq {p : σ → Bool} {moment : Nat} (h : p (r.settle sys).state = true) :
    r.settleUntilOr sys p moment = r.settle sys := by
  have hgo (fuel : Nat) : settleUntilOr.go sys p moment (fuel + 1) r = r.settle sys := by
    simp only [settleUntilOr.go, h, if_true]
  exact hgo (moveLimit - 1)

end OfferService.Run
