import OfferService.Text.Blank

/-
  OfferService.Proofs.Text.Trim

  What trimming leaves. A text is what trimming leaves of it, with white space around; and what has
  white space at neither end is left of it, however much white space stands around.
-/
namespace OfferService.Text

variable {before cs after : List Char} {c : Char}

/-- Nothing but white space. -/
def Blank (cs : List Char) : Prop := ∀ c ∈ cs, isBlank c = true

/-- White space at neither end. -/
structure Tight (cs : List Char) : Prop where
  first : ∀ c, cs.head? = some c → isBlank c = false
  last : ∀ c, cs.getLast? = some c → isBlank c = false

theorem Blank.append (h : Blank before) (h' : Blank after) : Blank (before ++ after) := by
  intro c hc
  rcases List.mem_append.mp hc with hc | hc
  · exact h c hc
  · exact h' c hc

theorem Blank.reverse (h : Blank cs) : Blank cs.reverse := fun c hc => h c (List.mem_reverse.mp hc)

/-- White space, and only that, is lost in front. -/
theorem dropWhile_append (h : Blank before)
    (first : ∀ c, cs.head? = some c → isBlank c = false) :
    (before ++ cs).dropWhile isBlank = cs := by
  rw [List.dropWhile_append_of_pos h]
  cases cs with
  | nil => rfl
  | cons c cs => exact List.dropWhile_cons_of_neg (by rw [first c rfl]; exact Bool.false_ne_true)

/-- White space, and only that, is lost at the end. -/
theorem trimEnd_append (h : Blank after) (last : ∀ c, cs.getLast? = some c → isBlank c = false) :
    trimEnd (cs ++ after) = cs := by
  rw [trimEnd, List.reverse_append, dropWhile_append h.reverse, List.reverse_reverse]
  intro c hc
  exact last c (List.head?_reverse ▸ hc)

theorem trim_of_blank (h : Blank cs) : trim cs = [] := by
  have hdrop : (cs ++ []).dropWhile isBlank = [] := dropWhile_append h fun _ hc => nomatch hc
  rw [List.append_nil] at hdrop
  rw [trim, hdrop]
  rfl

/-- What has white space at neither end is what trimming leaves of it. -/
theorem trim_append (h : Blank before) (tight : Tight cs) (h' : Blank after) :
    trim (before ++ cs ++ after) = cs := by
  cases cs with
  | nil =>
    rw [List.append_nil]
    exact trim_of_blank (h.append h')
  | cons c cs =>
    have first (d : Char) (hd : (c :: cs ++ after).head? = some d) : isBlank d = false :=
      tight.first d hd
    rw [List.append_assoc, trim, dropWhile_append h first, trimEnd_append h' tight.last]

theorem blank_takeWhile (cs : List Char) : Blank (cs.takeWhile isBlank) :=
  List.all_eq_true.mp List.all_takeWhile

theorem first_dropWhile (h : (cs.dropWhile isBlank).head? = some c) : isBlank c = false := by
  have hhead := List.head?_dropWhile_not isBlank cs
  rwa [h] at hhead

theorem last_trimEnd (h : (trimEnd cs).getLast? = some c) : isBlank c = false :=
  first_dropWhile (List.getLast?_reverse ▸ h)

theorem exists_trimEnd (cs : List Char) : ∃ after, Blank after ∧ cs = trimEnd cs ++ after := by
  refine ⟨(cs.reverse.takeWhile isBlank).reverse, (blank_takeWhile _).reverse, ?_⟩
  rw [trimEnd, ← List.reverse_append, List.takeWhile_append_dropWhile, List.reverse_reverse]

/-- A text is what trimming leaves, with white space around. -/
theorem exists_trim (cs : List Char) :
    ∃ before after, Blank before ∧ Blank after ∧ cs = before ++ trim cs ++ after := by
  obtain ⟨after, hafter, hrest⟩ := exists_trimEnd (cs.dropWhile isBlank)
  refine ⟨cs.takeWhile isBlank, after, blank_takeWhile cs, hafter, ?_⟩
  rw [List.append_assoc, trim, ← hrest, List.takeWhile_append_dropWhile]

theorem tight_trim (cs : List Char) : Tight (trim cs) where
  first c hc := by
    -- What is first after trimming is first once the white space in front is gone.
    obtain ⟨after, -, hrest⟩ := exists_trimEnd (cs.dropWhile isBlank)
    have hfirst : (cs.dropWhile isBlank).head? = some c := by
      rw [hrest, List.head?_append, ← trim, hc]
      rfl
    exact first_dropWhile hfirst
  last _ := last_trimEnd

/-- White space around a text makes no difference. -/
theorem trim_append_blank (h : Blank after) (cs : List Char) : trim (cs ++ after) = trim cs := by
  obtain ⟨left, right, hleft, hright, hcs⟩ := exists_trim cs
  calc trim (cs ++ after) = trim (left ++ trim cs ++ (right ++ after)) := by
        rw [← List.append_assoc, ← hcs]
    _ = trim cs := trim_append hleft (tight_trim cs) (hright.append h)

end OfferService.Text
