import OfferService.Mailbox

/-
  OfferService.Proofs.Mailbox

  What the operations of a mailbox do to its items and to its being closed. Places and the line of
  senders are left out: only who may put an item there depends on them.
-/
namespace OfferService.Mailbox

variable {κ α : Type}

/-! ## Places -/

@[simp] theorem items_release (m : Mailbox κ α) : m.release.items = m.items := by
  unfold release
  split <;> rfl

@[simp] theorem isClosed_release (m : Mailbox κ α) : m.release.isClosed = m.isClosed := by
  unfold release
  split <;> rfl

@[simp] theorem items_request (m : Mailbox κ α) (k : κ) : (m.request k).items = m.items := by
  unfold request
  split
  · rfl
  · split <;> rfl

@[simp] theorem isClosed_request (m : Mailbox κ α) (k : κ) :
    (m.request k).isClosed = m.isClosed := by
  unfold request
  split
  · rfl
  · split <;> rfl

/-! ## Items -/

/-- The receiver takes the item that came first. -/
theorem take?_eq_some {m m' : Mailbox κ α} {item : κ × α} (h : m.take? = some (item, m')) :
    m.items = item :: m'.items ∧ m'.isClosed = m.isClosed := by
  unfold take? at h
  split at h
  · cases h
  · rename_i hitems
    cases h
    rw [items_release, isClosed_release]
    exact ⟨hitems, rfl⟩

theorem take?_eq_none {m : Mailbox κ α} (h : m.take? = none) : m.items = [] := by
  unfold take? at h
  split at h
  · assumption
  · cases h

variable [DecidableEq κ]

/-- Nobody may put an item into a mailbox that is closed. -/
theorem isClosed_of_admits {m : Mailbox κ α} {k : κ} (h : m.admits k = true) :
    m.isClosed = false := by
  unfold admits at h
  rw [Bool.and_eq_true, Bool.not_eq_true'] at h
  exact h.1

theorem items_enter {m : Mailbox κ α} {k : κ} (h : m.admits k = true) (a : α) :
    (m.enter k a).items = m.items ++ [(k, a)] := by
  unfold enter
  rw [if_pos h]

@[simp] theorem isClosed_enter (m : Mailbox κ α) (k : κ) (a : α) :
    (m.enter k a).isClosed = m.isClosed := by
  unfold enter
  split <;> rfl

@[simp] theorem items_withdraw (m : Mailbox κ α) (k : κ) : (m.withdraw k).items = m.items := by
  unfold withdraw
  split
  · rw [items_release]
  · rfl

@[simp] theorem isClosed_withdraw (m : Mailbox κ α) (k : κ) :
    (m.withdraw k).isClosed = m.isClosed := by
  unfold withdraw
  split
  · rw [isClosed_release]
  · rfl

end OfferService.Mailbox
