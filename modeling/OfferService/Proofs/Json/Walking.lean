import OfferService.Json.Walk
import OfferService.Proofs.Json.Grammar

/-
  OfferService.Proofs.Json.Walking

  Going past a value goes past exactly its tokens. That is so whatever containers are open around
  it and whatever follows, so the induction is on the value: after each part of a container the walk
  stands in front of a separator again.

  A value that is set aside is looked at more closely, but taken the same way.
-/
namespace OfferService.Json

/-! ## Parts -/

theorem mem_parts {t : Token} {isFirst : Bool} {vs : List (List Token)} :
    t ∈ parts isFirst vs → t = .comma ∨ ∃ v ∈ vs, t ∈ v := by
  induction vs generalizing isFirst with
  | nil => nofun
  | cons v vs ih =>
    intro mem
    rcases List.mem_append.mp mem with here | later
    · have hmem : t = .comma ∨ t ∈ v := by
        cases isFirst with
        | true => exact .inr here
        | false => exact List.mem_cons.mp here
      exact hmem.imp_right fun h => ⟨v, List.mem_cons_self, h⟩
    · exact (ih later).imp_right fun ⟨w, hw, h⟩ => ⟨w, List.mem_cons_of_mem v hw, h⟩

theorem mem_parts_of_mem {t : Token} {v : List Token} {vs : List (List Token)} (isFirst : Bool)
    (hv : v ∈ vs) (ht : t ∈ v) : t ∈ parts isFirst vs := by
  induction vs generalizing isFirst with
  | nil => cases hv
  | cons w vs ih =>
    rcases List.mem_cons.mp hv with rfl | hv
    · refine List.mem_append_left _ ?_
      cases isFirst with
      | true => exact ht
      | false => exact List.mem_cons_of_mem _ ht
    · exact List.mem_append_right _ (ih false hv)

theorem mem_arrayTokens {t : Token} {v : List Token} {vs : List (List Token)} (hv : v ∈ vs)
    (ht : t ∈ v) : t ∈ arrayTokens vs :=
  List.mem_cons_of_mem _ (List.mem_append_left _ (mem_parts_of_mem true hv ht))

theorem mem_objectTokens {t : Token} {m : Except Break String × List Token}
    {ms : List (Except Break String × List Token)} (hm : m ∈ ms) (ht : t ∈ memberTokens m) :
    t ∈ objectTokens ms :=
  List.mem_cons_of_mem _
    (List.mem_append_left _ (mem_parts_of_mem true (List.mem_map_of_mem hm) ht))

/-- A value does not begin with the end of an array. -/
theorem IsValue.exists_cons {depth : Nat} {v : List Token} (h : IsValue depth v) :
    ∃ t ts, v = t :: ts ∧ t ≠ .closeArray := by
  cases h <;> exact ⟨_, _, rfl, nofun⟩

/-! ## Accepted tokens -/

theorem check_arrayTokens {s : Scrutiny} {vs : List (List Token)}
    (each : ∀ v ∈ vs, ∀ t ∈ v, s.check t = none) : ∀ t ∈ arrayTokens vs, s.check t = none := by
  intro t mem
  simp only [arrayTokens, List.mem_cons, List.mem_append, List.not_mem_nil, or_false] at mem
  rcases mem with rfl | mem | rfl
  · rfl
  · rcases mem_parts mem with rfl | ⟨v, hv, ht⟩
    · rfl
    · exact each v hv t ht
  · rfl

theorem check_objectTokens {s : Scrutiny} {ms : List (Except Break String × List Token)}
    (names : ∀ m ∈ ms, s.check (.string m.1) = none)
    (each : ∀ m ∈ ms, ∀ t ∈ m.2, s.check t = none) : ∀ t ∈ objectTokens ms, s.check t = none := by
  intro t mem
  simp only [objectTokens, List.mem_cons, List.mem_append, List.not_mem_nil, or_false] at mem
  rcases mem with rfl | mem | rfl
  · rfl
  · rcases mem_parts mem with rfl | ⟨v, hv, ht⟩
    · rfl
    · obtain ⟨m, hm, rfl⟩ := List.mem_map.mp hv
      simp only [memberTokens, List.mem_cons] at ht
      rcases ht with rfl | rfl | ht
      · exact names m hm
      · rfl
      · exact each m hm t ht
  · rfl

/-- Nothing is wrong with the tokens of a value that is passed over. -/
theorem IsValue.check_passing {depth : Nat} {v : List Token} (h : IsValue depth v) :
    ∀ t ∈ v, Scrutiny.passing.check t = none := by
  induction h with
  | null | boolean => exact List.forall_mem_singleton.mpr rfl
  | @number _ n =>
    refine List.forall_mem_singleton.mpr ?_
    cases n <;> rfl
  | @string _ content =>
    refine List.forall_mem_singleton.mpr ?_
    cases content <;> rfl
  | array _ ih => exact check_arrayTokens ih
  | object _ ih => exact check_objectTokens (fun m _ => by cases m.1 <;> rfl) ih

mutual

/-- Nothing is wrong with what is written, however closely it is examined. -/
theorem Value.check_tokens (s : Scrutiny) : (v : Value) → ∀ t ∈ v.tokens, s.check t = none
  | .null | .boolean _ | .natural _ | .string _ => List.forall_mem_singleton.mpr rfl
  | .array items => check_arrayTokens (Value.check_items s items)
  | .object members =>
    check_objectTokens (List.forall_mem_map.mpr fun _ _ => rfl)
      (List.forall_mem_map.mpr (Value.check_members s members))

theorem Value.check_items (s : Scrutiny) : (items : List Value) →
    ∀ v ∈ Value.itemTokens items, ∀ t ∈ v, s.check t = none
  | [] => nofun
  | v :: vs => List.forall_mem_cons.mpr ⟨Value.check_tokens s v, Value.check_items s vs⟩

theorem Value.check_members (s : Scrutiny) : (members : List (String × Value)) →
    ∀ m ∈ Value.memberTokens members, ∀ t ∈ m.2, s.check t = none
  | [] => nofun
  | (_, v) :: ms => List.forall_mem_cons.mpr ⟨Value.check_tokens s v, Value.check_members s ms⟩

end

/-! ## Walks -/

/-- May so many containers be open at once? -/
def Scrutiny.Allows : Scrutiny → Nat → Prop
  | .passing, _ => True
  | .keeping depth, n => n ≤ depth

theorem Scrutiny.Allows.of_le {s : Scrutiny} {m n : Nat} (h : s.Allows n) (le : m ≤ n) :
    s.Allows m := by
  cases s with
  | passing => trivial
  | keeping depth => exact Nat.le_trans le h

theorem Scrutiny.Allows.admits {s : Scrutiny} {opened : List Container} {n : Nat}
    (h : s.Allows n) (lt : opened.length < n) : s.admits opened = true := by
  cases s with
  | passing => rfl
  | keeping depth => exact decide_eq_true (Nat.lt_of_lt_of_le lt h)

/-- How a walk goes on after a token. -/
def Walk.Outcome.resume (s : Scrutiny) (taken rest : List Token) :
    Walk.Outcome → Except Break (List Token × List Token)
  | .done => .ok (taken.reverse, rest)
  | .broken b => .error b
  | .more w => walk s w taken rest

open Walk

variable {s : Scrutiny} {opened : List Container} {taken rest : List Token} {depth : Nat}

theorem walk_cons (w : Walk) (t : Token) :
    walk s w taken (t :: rest) = (w.step s t).resume s (t :: taken) rest := by
  rw [walk]
  unfold Outcome.resume
  rfl

/-- A single token that is a value. -/
theorem walk_scalar {t : Token} (scalar : onValue s opened t = afterValue opened) :
    walk s ⟨opened, .value⟩ taken (t :: rest) =
      (afterValue opened).resume s (t :: taken) rest := by
  rw [walk_cons]
  show (onValue s opened t).resume s _ _ = _
  rw [scalar]

theorem step_first_array {t : Token} (h : t ≠ .closeArray) :
    (⟨.array :: opened, .first⟩ : Walk).step s t = onValue s (.array :: opened) t := by
  cases t <;> first | rfl | exact absurd rfl h

theorem step_first_object {t : Token} (h : t ≠ .closeObject) :
    (⟨.object :: opened, .first⟩ : Walk).step s t = onKey s (.object :: opened) t := by
  cases t <;> first | rfl | exact absurd rfl h

/-- Where the first part of an array is awaited, a value is read as anywhere else. -/
theorem walk_first {v : List Token} (value : IsValue depth v) :
    walk s ⟨.array :: opened, .first⟩ taken (v ++ rest) =
      walk s ⟨.array :: opened, .value⟩ taken (v ++ rest) := by
  obtain ⟨t, ts, rfl, hne⟩ := value.exists_cons
  rw [List.cons_append, walk_cons, walk_cons, step_first_array hne]
  rfl

/-- What is said of a value `v`: wherever it stands, a walk goes past it. -/
def Passed (s : Scrutiny) (opened : List Container) (v : List Token) : Prop :=
  ∀ taken rest, walk s ⟨opened, .value⟩ taken (v ++ rest) =
    (afterValue opened).resume s (v.reverse ++ taken) rest

/-- The parts of an array after the first one, and its end. -/
theorem walk_parts_array {vs : List (List Token)}
    (each : ∀ v ∈ vs, Passed s (.array :: opened) v) (taken rest : List Token) :
    walk s ⟨.array :: opened, .separator⟩ taken (parts false vs ++ .closeArray :: rest) =
      (afterValue opened).resume s (.closeArray :: ((parts false vs).reverse ++ taken)) rest := by
  induction vs generalizing taken with
  | nil => exact walk_cons _ _
  | cons v vs ih =>
    obtain ⟨hv, hvs⟩ := List.forall_mem_cons.mp each
    have hcomma : walk s ⟨.array :: opened, .separator⟩ taken
        (.comma :: (v ++ (parts false vs ++ .closeArray :: rest))) =
        walk s ⟨.array :: opened, .value⟩ (.comma :: taken)
          (v ++ (parts false vs ++ .closeArray :: rest)) := walk_cons _ _
    show walk s _ taken ((.comma :: v ++ parts false vs) ++ .closeArray :: rest) = _
    rw [List.append_assoc, List.cons_append, hcomma, hv]
    show walk s ⟨.array :: opened, .separator⟩ _ _ = _
    rw [ih hvs]
    simp [parts]

theorem walk_array {vs : List (List Token)} (values : ∀ v ∈ vs, ∃ depth, IsValue depth v)
    (each : ∀ v ∈ vs, Passed s (.array :: opened) v) (admits : s.admits opened = true) :
    Passed s opened (arrayTokens vs) := by
  intro taken rest
  have henter : walk s ⟨opened, .value⟩ taken (arrayTokens vs ++ rest) =
      walk s ⟨.array :: opened, .first⟩ (.openArray :: taken)
        (parts true vs ++ .closeArray :: rest) := by
    rw [arrayTokens, List.cons_append, List.append_assoc, walk_cons]
    show (enter s .array opened).resume s _ _ = _
    rw [enter, if_pos admits]
    rfl
  rw [henter]
  cases vs with
  | nil => exact walk_cons _ _
  | cons v vs =>
    obtain ⟨hv, hvs⟩ := List.forall_mem_cons.mp each
    obtain ⟨depth, hvalue⟩ := values v List.mem_cons_self
    show walk s _ _ ((v ++ parts false vs) ++ .closeArray :: rest) = _
    rw [List.append_assoc, walk_first hvalue, hv]
    show walk s ⟨.array :: opened, .separator⟩ _ _ = _
    rw [walk_parts_array hvs]
    simp [arrayTokens, parts]

/-- A member of an object, whose key may stand here. -/
theorem walk_member {m : Except Break String × List Token} {w : Walk}
    (key : w.step s (.string m.1) = .more ⟨.object :: opened, .colon⟩)
    (value : Passed s (.object :: opened) m.2) (taken rest : List Token) :
    walk s w taken (memberTokens m ++ rest) =
      walk s ⟨.object :: opened, .separator⟩ ((memberTokens m).reverse ++ taken) rest := by
  have hcolon : walk s ⟨.object :: opened, .colon⟩ (.string m.1 :: taken)
      (.colon :: (m.2 ++ rest)) =
      walk s ⟨.object :: opened, .value⟩ (.colon :: .string m.1 :: taken) (m.2 ++ rest) :=
    walk_cons _ _
  rw [memberTokens, List.cons_append, List.cons_append, walk_cons, key]
  show walk s ⟨.object :: opened, .colon⟩ _ _ = _
  rw [hcolon, value]
  simp [Outcome.resume, afterValue]

/-- The members of an object after the first one, and its end. -/
theorem walk_parts_object {ms : List (Except Break String × List Token)}
    (names : ∀ m ∈ ms, s.check (.string m.1) = none)
    (each : ∀ m ∈ ms, Passed s (.object :: opened) m.2) (taken rest : List Token) :
    walk s ⟨.object :: opened, .separator⟩ taken
        (parts false (ms.map memberTokens) ++ .closeObject :: rest) =
      (afterValue opened).resume s
        (.closeObject :: ((parts false (ms.map memberTokens)).reverse ++ taken)) rest := by
  induction ms generalizing taken with
  | nil => exact walk_cons _ _
  | cons m ms ih =>
    obtain ⟨hname, hnames⟩ := List.forall_mem_cons.mp names
    obtain ⟨hm, hms⟩ := List.forall_mem_cons.mp each
    have hkey : (⟨.object :: opened, .key⟩ : Walk).step s (.string m.1) =
        .more ⟨.object :: opened, .colon⟩ := by
      show onKey s (.object :: opened) (.string m.1) = _
      simp only [onKey, hname]
    have hcomma : walk s ⟨.object :: opened, .separator⟩ taken (.comma ::
          (memberTokens m ++ (parts false (ms.map memberTokens) ++ .closeObject :: rest))) =
        walk s ⟨.object :: opened, .key⟩ (.comma :: taken)
          (memberTokens m ++ (parts false (ms.map memberTokens) ++ .closeObject :: rest)) :=
      walk_cons _ _
    show walk s _ taken
      ((.comma :: memberTokens m ++ parts false (ms.map memberTokens)) ++ .closeObject :: rest) = _
    rw [List.append_assoc, List.cons_append, hcomma, walk_member hkey hm, ih hnames hms]
    simp [parts]

theorem walk_object {ms : List (Except Break String × List Token)}
    (names : ∀ m ∈ ms, s.check (.string m.1) = none)
    (each : ∀ m ∈ ms, Passed s (.object :: opened) m.2) (admits : s.admits opened = true) :
    Passed s opened (objectTokens ms) := by
  intro taken rest
  have henter : walk s ⟨opened, .value⟩ taken (objectTokens ms ++ rest) =
      walk s ⟨.object :: opened, .first⟩ (.openObject :: taken)
        (parts true (ms.map memberTokens) ++ .closeObject :: rest) := by
    rw [objectTokens, List.cons_append, List.append_assoc, walk_cons]
    show (enter s .object opened).resume s _ _ = _
    rw [enter, if_pos admits]
    rfl
  rw [henter]
  cases ms with
  | nil => exact walk_cons _ _
  | cons m ms =>
    obtain ⟨hname, hnames⟩ := List.forall_mem_cons.mp names
    obtain ⟨hm, hms⟩ := List.forall_mem_cons.mp each
    have hkey : (⟨.object :: opened, .first⟩ : Walk).step s (.string m.1) =
        .more ⟨.object :: opened, .colon⟩ := by
      show onKey s (.object :: opened) (.string m.1) = _
      simp only [onKey, hname]
    show walk s _ _
      ((memberTokens m ++ parts false (ms.map memberTokens)) ++ .closeObject :: rest) = _
    rw [List.append_assoc, walk_member hkey hm, walk_parts_object hnames hms]
    simp [objectTokens, parts]

/-- A walk goes past a value, if it accepts each of its tokens and that it is nested so deeply. -/
theorem passed_of_isValue {v : List Token} (value : IsValue depth v)
    (clean : ∀ t ∈ v, s.check t = none) (allows : s.Allows (opened.length + depth)) :
    Passed s opened v := by
  -- for any open containers: there is one more around the parts of an array or of an object
  induction value generalizing opened with
  | null | boolean =>
    intro taken rest
    exact walk_scalar rfl
  | @number _ n =>
    intro taken rest
    have hcheck := List.forall_mem_singleton.mp clean
    exact walk_scalar (by simp only [onValue, hcheck])
  | @string _ content =>
    intro taken rest
    have hcheck := List.forall_mem_singleton.mp clean
    exact walk_scalar (by simp only [onValue, hcheck])
  | @array depth vs values ih =>
    refine walk_array (fun v hv => ⟨depth, values v hv⟩) (fun v hv => ih v hv ?_ ?_) ?_
    · exact fun t ht => clean t (mem_arrayTokens hv ht)
    · exact allows.of_le (by simp only [List.length_cons]; omega)
    · exact allows.admits (by omega)
  | @object depth ms values ih =>
    refine walk_object (fun m hm => ?_) (fun m hm => ih m hm ?_ ?_) ?_
    · exact clean _ (mem_objectTokens hm List.mem_cons_self)
    · exact fun t ht =>
        clean t (mem_objectTokens hm (List.mem_cons_of_mem _ (List.mem_cons_of_mem _ ht)))
    · exact allows.of_le (by simp only [List.length_cons]; omega)
    · exact allows.admits (by omega)

/-! ## Past a value -/

/-- A value is passed over as a whole. -/
theorem skipValue_append {v : List Token} (value : IsValue depth v) (rest : List Token) :
    skipValue (v ++ rest) = .ok rest := by
  have hpassed : Passed .passing [] v := passed_of_isValue value value.check_passing trivial
  rw [skipValue, hpassed [] rest]
  rfl

/-- A value is set aside as a whole, if it is accepted. -/
theorem keepValue_append {v : List Token} {bound : Nat} (value : IsValue depth v)
    (clean : ∀ t ∈ v, (Scrutiny.keeping bound).check t = none) (shallow : depth ≤ bound)
    (rest : List Token) : keepValue bound (v ++ rest) = .ok (v, rest) := by
  have hpassed : Passed (.keeping bound) [] v :=
    passed_of_isValue value clean (by simpa [Scrutiny.Allows] using shallow)
  rw [keepValue, hpassed [] rest]
  simp [Outcome.resume, afterValue]

/-! ## The two ways of looking -/

theorem check_passing_of_keeping {bound : Nat} {t : Token}
    (h : (Scrutiny.keeping bound).check t = none) : Scrutiny.passing.check t = none := by
  cases t with
  | unclosed | bad => cases h
  | number n => cases n <;> rfl
  | string content => cases content <;> rfl
  | _ => rfl

theorem enter_passing (bound : Nat) (c : Container) :
    (∃ b, enter (.keeping bound) c opened = .broken b) ∨
      enter .passing c opened = enter (.keeping bound) c opened := by
  by_cases h : (Scrutiny.keeping bound).admits opened = true
  · exact .inr (by rw [enter, enter, if_pos h]; rfl)
  · exact .inl ⟨.malformed, if_neg h⟩

theorem onValue_passing (bound : Nat) (t : Token) :
    (∃ b, onValue (.keeping bound) opened t = .broken b) ∨
      onValue .passing opened t = onValue (.keeping bound) opened t := by
  cases h : (Scrutiny.keeping bound).check t with
  | some b => exact .inl ⟨b, by simp only [onValue, h]⟩
  | none =>
    have hpassing := check_passing_of_keeping h
    simp only [onValue, h, hpassing]
    cases t with
    | openArray => exact enter_passing bound .array
    | openObject => exact enter_passing bound .object
    | _ => exact .inr rfl

theorem onKey_passing (bound : Nat) (t : Token) :
    (∃ b, onKey (.keeping bound) opened t = .broken b) ∨
      onKey .passing opened t = onKey (.keeping bound) opened t := by
  cases h : (Scrutiny.keeping bound).check t with
  | some b =>
    cases t with
    | string | unclosed => exact .inl ⟨b, by simp only [onKey, h]⟩
    | _ => exact .inr rfl
  | none =>
    have hpassing := check_passing_of_keeping h
    cases t with
    | string | unclosed => exact .inr (by simp only [onKey, h, hpassing])
    | _ => exact .inr rfl

/-- The closer look makes the same of a token, or breaks off. -/
theorem step_passing (bound : Nat) (w : Walk) (t : Token) :
    (∃ b, w.step (.keeping bound) t = .broken b) ∨
      w.step .passing t = w.step (.keeping bound) t := by
  obtain ⟨opened, awaited⟩ := w
  -- only where a value or a key is awaited is a token looked at more closely
  cases awaited with
  | value => exact onValue_passing bound t
  | key => exact onKey_passing bound t
  | colon => cases t <;> exact .inr rfl
  | separator => rcases opened with _ | ⟨_ | _, opened⟩ <;> cases t <;> exact .inr rfl
  | first =>
    rcases opened with _ | ⟨_ | _, opened⟩
    · exact .inr rfl
    · by_cases h : t = .closeArray
      · subst h
        exact .inr rfl
      · rw [step_first_array h, step_first_array h]
        exact onValue_passing bound t
    · by_cases h : t = .closeObject
      · subst h
        exact .inr rfl
      · rw [step_first_object h, step_first_object h]
        exact onKey_passing bound t

/-- What is set aside is what would be passed over. -/
theorem walk_passing_of_keeping {bound : Nat} {w : Walk} {ts kept : List Token}
    (h : walk (.keeping bound) w taken ts = .ok (kept, rest)) :
    walk .passing w taken ts = .ok (kept, rest) := by
  induction ts generalizing w taken with
  | nil => cases h
  | cons t ts ih =>
    rw [walk_cons] at h ⊢
    rcases step_passing bound w t with ⟨b, hb⟩ | hstep
    · rw [hb] at h
      cases h
    · rw [hstep]
      cases hw : w.step (.keeping bound) t with
      | done =>
        rw [hw] at h
        exact h
      | broken b =>
        rw [hw] at h
        cases h
      | more w =>
        rw [hw] at h
        exact ih h

/-- Of a value that is set aside, all is kept. -/
theorem eq_of_keepValue {v kept out : List Token} {bound : Nat} (value : IsValue depth v)
    (h : keepValue bound (v ++ rest) = .ok (kept, out)) : kept = v ∧ out = rest := by
  have hpassed : Passed .passing [] v := passed_of_isValue value value.check_passing trivial
  have hwalk := walk_passing_of_keeping h
  rw [hpassed [] rest] at hwalk
  obtain ⟨rfl, rfl⟩ : v = kept ∧ rest = out := by
    simpa [Outcome.resume, afterValue] using hwalk
  exact ⟨rfl, rfl⟩

end OfferService.Json
