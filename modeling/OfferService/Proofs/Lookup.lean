/-
  OfferService.Proofs.Lookup

  Lists of who waits with what: looking somebody up, taking somebody out, and all that is listed
  under one key.
-/
namespace OfferService

variable {κ β : Type} [DecidableEq κ]

theorem mem_of_lookup {l : List (κ × β)} {k : κ} {b : β} (h : l.lookup k = some b) :
    (k, b) ∈ l := by
  obtain ⟨l₁, l₂, rfl, -⟩ := List.lookup_eq_some_iff.mp h
  exact List.mem_append_right _ List.mem_cons_self

theorem not_mem_of_lookup {l : List (κ × β)} {k : κ} (h : l.lookup k = none) :
    k ∉ l.map (·.1) := by
  intro hmem
  obtain ⟨p, hp, rfl⟩ := List.mem_map.mp hmem
  have hne := List.lookup_eq_none_iff.mp h p hp
  simp at hne

/-- Taking somebody out changes nothing for others. -/
theorem lookup_filter_of_ne {l : List (κ × β)} {j k : κ} (hne : j ≠ k) :
    (l.filter fun p => p.1 ≠ j).lookup k = l.lookup k := by
  induction l with
  | nil => rfl
  | cons p l ih =>
    by_cases heq : p.1 = j
    · have hk : (k == p.1) = false := beq_false_of_ne (heq ▸ hne.symm)
      rw [List.filter_cons_of_neg (by simpa using heq), List.lookup_cons, hk]
      exact ih
    · rw [List.filter_cons_of_pos (by simpa using heq), List.lookup_cons, List.lookup_cons, ih]

theorem lookup_filter_self (l : List (κ × β)) (k : κ) :
    (l.filter fun p => p.1 ≠ k).lookup k = none := by
  apply List.lookup_eq_none_iff.mpr
  intro p hp
  have hne : p.1 ≠ k := by simpa using (List.mem_filter.mp hp).2
  simpa using hne.symm

/-- Who is looked up and taken out was in the list once. -/
theorem perm_of_lookup {l : List (κ × β)} {k : κ} {b : β} (hn : (l.map (·.1)).Nodup)
    (h : l.lookup k = some b) : l.Perm ((k, b) :: l.filter fun p => p.1 ≠ k) := by
  obtain ⟨l₁, l₂, rfl, hl₁⟩ := List.lookup_eq_some_iff.mp h
  rw [List.map_append, List.map_cons, List.nodup_append, List.nodup_cons] at hn
  obtain ⟨-, ⟨hk, -⟩, -⟩ := hn
  have hleft : l₁.filter (fun p => p.1 ≠ k) = l₁ := by
    apply List.filter_eq_self.mpr
    intro p hp
    have hne : k ≠ p.1 := by simpa using hl₁ p hp
    simpa using hne.symm
  have hright : l₂.filter (fun p => p.1 ≠ k) = l₂ := by
    apply List.filter_eq_self.mpr
    intro p hp
    have hne : p.1 ≠ k := fun he => hk (List.mem_map.mpr ⟨p, hp, he⟩)
    simpa using hne
  rw [List.filter_append, List.filter_cons_of_neg (by simp), hleft, hright]
  exact List.perm_middle

/-! ## Entries of one key -/

/-- What is listed under a key. -/
def entries (k : κ) (l : List (κ × β)) : List β :=
  l.filterMap fun p => if p.1 = k then some p.2 else none

@[simp] theorem entries_nil (k : κ) : entries k ([] : List (κ × β)) = [] := rfl

@[simp] theorem entries_cons_self (k : κ) (b : β) (l : List (κ × β)) :
    entries k ((k, b) :: l) = b :: entries k l := by simp [entries]

theorem entries_cons_of_ne {j k : κ} (hne : j ≠ k) (b : β) (l : List (κ × β)) :
    entries k ((j, b) :: l) = entries k l := by simp [entries, hne]

@[simp] theorem entries_append (k : κ) (l m : List (κ × β)) :
    entries k (l ++ m) = entries k l ++ entries k m := List.filterMap_append

theorem mem_of_mem_entries {k : κ} {b : β} {l : List (κ × β)} (h : b ∈ entries k l) :
    (k, b) ∈ l := by
  obtain ⟨⟨j, b'⟩, hp, heq⟩ := List.mem_filterMap.mp h
  split at heq
  · rename_i hj
    cases hj
    cases heq
    exact hp
  · cases heq

theorem entries_filter_self (k : κ) (l : List (κ × β)) :
    entries k (l.filter fun p => p.1 ≠ k) = [] := by
  apply List.filterMap_eq_nil_iff.mpr
  intro p hp
  have hne : p.1 ≠ k := by simpa using (List.mem_filter.mp hp).2
  exact if_neg hne

theorem entries_filter_of_ne {j k : κ} (hne : j ≠ k) (l : List (κ × β)) :
    entries k (l.filter fun p => p.1 ≠ j) = entries k l := by
  induction l with
  | nil => rfl
  | cons p l ih =>
    obtain ⟨i, b⟩ := p
    by_cases hi : i = j
    · rw [List.filter_cons_of_neg (by simpa using hi), ih, hi, entries_cons_of_ne hne]
    · rw [List.filter_cons_of_pos (by simpa using hi)]
      by_cases hk : i = k
      · rw [hk, entries_cons_self, entries_cons_self, ih]
      · rw [entries_cons_of_ne hk, entries_cons_of_ne hk, ih]

/-- Who is looked up is found with the first entry. -/
theorem entries_of_lookup {l : List (κ × β)} {k : κ} {b : β} (found : l.lookup k = some b) :
    ∃ rest, entries k l = b :: rest := by
  induction l with
  | nil => cases found
  | cons p l ih =>
    obtain ⟨i, a⟩ := p
    by_cases hk : i = k
    · rw [hk, List.lookup_cons_self] at found
      cases found
      exact ⟨entries k l, by rw [hk, entries_cons_self]⟩
    · have hne : (k == i) = false := beq_false_of_ne (Ne.symm hk)
      rw [List.lookup_cons, hne] at found
      rw [entries_cons_of_ne hk]
      exact ih found

end OfferService
