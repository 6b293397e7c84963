import OfferService.Json.Tagged
import OfferService.Proofs.Json.Records
import OfferService.Proofs.Lookup

/-
  OfferService.Proofs.Json.Choices

  What a choice is read from. Its tag and its content may come in either order, with other members
  before, between and after them. If the content comes first, it is set aside, and looked at more
  closely; what is read is the same.
-/
namespace OfferService.Json.Choice

variable {c : Choice α} {V T rest out : List Token} {a : α} {content : Origin → Reader α}
  {xs ys zs : List (Except Break String × List Token)}

/-! ## Members that matter, and others -/

/-- A member that is passed over. -/
structure IsOther (c : Choice α) (m : Except Break String × List Token) : Prop where
  name : ∃ name, m.1 = .ok name ∧ ∀ role, c.key role ≠ name
  value : ∃ depth, IsValue depth m.2

/-- Are the keys of tag and content different? -/
def HasKeys (c : Choice α) : Prop := c.tagKey ≠ c.contentKey

theorem find?_key (keys : c.HasKeys) (role : Role) :
    ([Role.tag, Role.content].find? fun r => c.key r == c.key role) = some role := by
  cases role with
  | tag => simp [key]
  | content => simp [key, beq_eq_false_iff_ne.mpr keys]

theorem find?_other {name : String} (other : ∀ role, c.key role ≠ name) :
    ([Role.tag, Role.content].find? fun r => c.key r == name) = none := by
  simp [other]

theorem nextRole_other {m : Except Break String × List Token} (other : c.IsOther m)
    (barred : List Role) (fuel : Nat) (isFirst : Bool) (vs : List (List Token))
    (rest : List Token) :
    c.nextRole barred (fuel + 1) isFirst (parts isFirst (memberTokens m :: vs) ++ rest) =
      c.nextRole barred fuel false (parts false vs ++ rest) := by
  obtain ⟨⟨name, hname, hkeys⟩, ⟨depth, hvalue⟩⟩ := other
  obtain ⟨_, v⟩ := m
  subst hname
  rw [nextRole, nextKey_parts]
  simp only [bind, Except.bind, find?_other hkeys, colon, skipValue_append hvalue, unbroken,
    Except.mapError]

/-- After other members the object ends. -/
theorem nextRole_end (others : ∀ m ∈ xs, c.IsOther m) (barred : List Role) {fuel : Nat}
    (enough : xs.length < fuel) (isFirst : Bool) (rest : List Token) :
    c.nextRole barred fuel isFirst
      (parts isFirst (xs.map memberTokens) ++ .closeObject :: rest) = .ok (none, rest) := by
  induction xs generalizing fuel isFirst with
  | nil =>
    cases fuel with
    | zero => cases enough
    | succ fuel => rfl
  | cons m xs ih =>
    cases fuel with
    | zero => cases enough
    | succ fuel =>
      obtain ⟨hm, hxs⟩ := List.forall_mem_cons.mp others
      rw [List.map_cons, nextRole_other hm]
      exact ih hxs (Nat.lt_of_succ_lt_succ enough) false

/-- After other members one comes that matters. -/
theorem nextRole_role (keys : c.HasKeys) (others : ∀ m ∈ xs, c.IsOther m) {barred : List Role}
    {role : Role} (free : role ∉ barred) {fuel : Nat} (enough : xs.length < fuel)
    (isFirst : Bool) (v : List Token) (ms : List (Except Break String × List Token))
    (rest : List Token) :
    c.nextRole barred fuel isFirst
        (parts isFirst ((xs ++ (.ok (c.key role), v) :: ms).map memberTokens) ++ rest) =
      .ok (some role, v ++ (parts false (ms.map memberTokens) ++ rest)) := by
  induction xs generalizing fuel isFirst with
  | nil =>
    cases fuel with
    | zero => cases enough
    | succ fuel =>
      have hfree : barred.contains role = false := by
        simpa using free
      rw [List.nil_append, List.map_cons, nextRole, nextKey_parts]
      simp only [bind, Except.bind, find?_key keys, hfree, Bool.false_eq_true, if_false, colon]
  | cons m xs ih =>
    cases fuel with
    | zero => cases enough
    | succ fuel =>
      obtain ⟨hm, hxs⟩ := List.forall_mem_cons.mp others
      rw [List.cons_append, List.map_cons, nextRole_other hm]
      exact ih hxs (Nat.lt_of_succ_lt_succ enough) false

theorem readEnd_others (others : ∀ m ∈ zs, c.IsOther m) (rest : List Token) :
    c.readEnd (parts false (zs.map memberTokens) ++ .closeObject :: rest) = .ok rest := by
  rw [readEnd, nextRole_end others _ (length_lt_members zs false _)]
  rfl

/-! ## Tags -/

theorem mem_of_variant {name : String} (h : c.variant name = .ok content) :
    (name, content) ∈ c.variants := by
  unfold variant at h
  cases hlookup : c.variants.lookup name with
  | none =>
    rw [hlookup] at h
    cases h
  | some r =>
    rw [hlookup] at h
    cases h
    exact mem_of_lookup hlookup

/-- The two ways to write the name of a variant as a tag. -/
inductive IsTag : List Token → String → Prop
  | name {name : String} : IsTag [.string (.ok name)] name
  | object {name : String} : IsTag (objectTokens [(.ok name, [.null])]) name

theorem readTag_of_isTag {name : String} (tag : IsTag T name) (rest : List Token) :
    c.readTag (T ++ rest) = (c.variant name).map fun content => (content, rest) := by
  cases tag with
  | name =>
    rw [List.singleton_append, readTag]
    cases c.variant name <;> rfl
  | object =>
    show c.readTag (.openObject :: .string (.ok name) :: .colon :: .null :: .closeObject :: rest) = _
    simp only [readTag, variantName, bind, Except.bind]
    cases c.variant name <;> rfl

theorem reads_tag {name : String} (tag : IsTag T name) (h : c.variant name = .ok content) :
    Reads c.readTag T content := by
  intro rest
  rw [readTag_of_isTag tag, h]
  rfl

/-- Only `null` is read as nothing. -/
theorem eq_null_of_unit {depth : Nat} {v : List Token} (value : IsValue depth v)
    (h : unit (v ++ rest) = .ok ((), out)) : v = [.null] ∧ out = rest := by
  cases value with
  | null =>
    cases h
    exact ⟨rfl, rfl⟩
  | _ => cases h

/-- What is read as a tag is one. -/
theorem isTag_of_readTag {depth : Nat} (value : IsValue depth T)
    (h : c.readTag (T ++ rest) = .ok (content, out)) :
    ∃ name, IsTag T name ∧ c.variant name = .ok content ∧ out = rest := by
  cases value with
  | @string _ text =>
    cases text with
    | error b => cases h
    | ok name =>
      rw [readTag_of_isTag .name] at h
      obtain ⟨r, hvariant, heq⟩ := exists_of_map_eq_ok h
      cases heq
      exact ⟨name, .name, hvariant, rfl⟩
  | @object depth ms values =>
    cases ms with
    | nil => cases h
    | cons m ms =>
      obtain ⟨key, v⟩ := m
      have htokens : objectTokens ((key, v) :: ms) ++ rest = .openObject :: .string key :: .colon ::
          (v ++ (parts false (ms.map memberTokens) ++ .closeObject :: rest)) := by
        simp [objectTokens, parts, memberTokens]
      rw [htokens] at h
      cases key with
      | error b => cases h
      | ok name =>
        obtain ⟨⟨_, left⟩, hname, h⟩ := exists_of_bind_eq_ok h
        cases hname
        obtain ⟨r, hvariant, h⟩ := exists_of_bind_eq_ok h
        obtain ⟨left, hcolon, h⟩ := exists_of_bind_eq_ok h
        cases hcolon
        obtain ⟨⟨_, left⟩, hunit, h⟩ := exists_of_bind_eq_ok h
        obtain ⟨rfl, rfl⟩ := eq_null_of_unit (values _ List.mem_cons_self) hunit
        -- another member would come where the object has to end
        cases ms with
        | nil =>
          cases h
          exact ⟨name, .object, hvariant, rfl⟩
        | cons m ms => cases h
  | _ => cases h

/-! ## Objects -/

/-- The tag comes first. -/
def tagFirst (c : Choice α) (T V : List Token)
    (xs ys zs : List (Except Break String × List Token)) :
    List (Except Break String × List Token) :=
  xs ++ (.ok (c.key .tag), T) :: (ys ++ (.ok (c.key .content), V) :: zs)

/-- The content comes first. -/
def contentFirst (c : Choice α) (T V : List Token)
    (xs ys zs : List (Except Break String × List Token)) :
    List (Except Break String × List Token) :=
  xs ++ (.ok (c.key .content), V) :: (ys ++ (.ok (c.key .tag), T) :: zs)

theorem read_objectTokens (ms : List (Except Break String × List Token)) (rest : List Token) :
    c.read (objectTokens ms ++ rest) =
      c.readObject (parts true (ms.map memberTokens) ++ .closeObject :: rest) := by
  rw [objectTokens, List.cons_append, List.append_assoc]
  rfl

section

variable (keys : c.HasKeys) (othersX : ∀ m ∈ xs, c.IsOther m) (othersY : ∀ m ∈ ys, c.IsOther m)
  (othersZ : ∀ m ∈ zs, c.IsOther m)
include keys othersX othersY othersZ

/-- A choice whose tag comes first is read in place. -/
theorem reads_tagFirst (tag : Reads c.readTag T content) (value : Reads (content .text) V a) :
    Reads c.read (objectTokens (c.tagFirst T V xs ys zs)) a := by
  intro rest
  -- every search has the fuel of the whole object, which is more than it passes over
  have hlength := length_lt_members (c.tagFirst T V xs ys zs) true (.closeObject :: rest)
  rw [read_objectTokens]
  generalize hfuel : (parts true ((c.tagFirst T V xs ys zs).map memberTokens) ++
    .closeObject :: rest).length + 1 = fuel at hlength
  simp only [tagFirst, List.length_append, List.length_cons] at hlength
  unfold readObject
  rw [hfuel]
  unfold tagFirst
  rw [nextRole_role keys othersX List.not_mem_nil (by omega)]
  simp only [bind, Except.bind, tag _]
  rw [nextRole_role keys othersY (by decide) (by omega)]
  simp only [value _, readEnd_others othersZ]

omit othersZ in
/-- A choice whose content comes first is read once its tag is known. -/
theorem read_contentFirst {depth : Nat} (valueV : IsValue depth V) (rest : List Token) :
    c.read (objectTokens (c.contentFirst T V xs ys zs) ++ rest) = (do
      let _ ← unbroken (keepValue keptDepth
        (V ++ (parts false ((ys ++ (.ok (c.key .tag), T) :: zs).map memberTokens) ++
          .closeObject :: rest)))
      let (content, left) ← c.readTag
        (T ++ (parts false (zs.map memberTokens) ++ .closeObject :: rest))
      let (a, _) ← content .kept V
      let left ← c.readEnd left
      .ok (a, left)) := by
  have hlength := length_lt_members (c.contentFirst T V xs ys zs) true (.closeObject :: rest)
  rw [read_objectTokens]
  generalize hfuel : (parts true ((c.contentFirst T V xs ys zs).map memberTokens) ++
    .closeObject :: rest).length + 1 = fuel at hlength
  simp only [contentFirst, List.length_append, List.length_cons] at hlength
  unfold readObject
  rw [hfuel]
  unfold contentFirst
  rw [nextRole_role keys othersX List.not_mem_nil (by omega)]
  simp only [bind, Except.bind]
  cases hkeep : keepValue keptDepth
      (V ++ (parts false ((ys ++ (.ok (c.key .tag), T) :: zs).map memberTokens) ++
        .closeObject :: rest)) with
  | error b => rfl
  | ok read =>
    obtain ⟨kept, left⟩ := read
    -- what was set aside is the content, so the search goes on right after it
    obtain ⟨rfl, rfl⟩ := eq_of_keepValue valueV hkeep
    simp only [unbroken, Except.mapError]
    rw [nextRole_role keys othersY (by decide) (by omega)]

/-- A choice whose content comes first is read, if the content can be set aside. -/
theorem reads_contentFirst {depth : Nat} (valueV : IsValue depth V)
    (kept : ∀ rest, keepValue keptDepth (V ++ rest) = .ok (V, rest))
    (tag : Reads c.readTag T content) (value : Reads (content .kept) V a) :
    Reads c.read (objectTokens (c.contentFirst T V xs ys zs)) a := by
  intro rest
  have hvalue := value []
  rw [List.append_nil] at hvalue
  rw [read_contentFirst keys othersX othersY valueV, kept, tag _]
  simp only [unbroken, Except.mapError, bind, Except.bind, hvalue, readEnd_others othersZ]

/-- If a choice is read whose content comes first, then its tag and its content are read wherever
    they stand. -/
theorem reads_of_contentFirst (settled : ∀ v ∈ c.variants, Settled v.2) {depthT depthV : Nat}
    (valueT : IsValue depthT T) (valueV : IsValue depthV V)
    (h : c.read (objectTokens (c.contentFirst T V xs ys zs) ++ rest) = .ok (a, out)) :
    out = rest ∧ ∃ content, Reads c.readTag T content ∧ ∀ origin, Reads (content origin) V a := by
  rw [read_contentFirst keys othersX othersY valueV] at h
  obtain ⟨_, -, h⟩ := exists_of_bind_eq_ok h
  obtain ⟨⟨content, left⟩, htag, h⟩ := exists_of_bind_eq_ok h
  obtain ⟨⟨b, _⟩, hcontent, h⟩ := exists_of_bind_eq_ok h
  obtain ⟨name, hname, hvariant, rfl⟩ := isTag_of_readTag valueT htag
  rw [readEnd_others othersZ] at h
  cases h
  -- the content was read by itself, with nothing after it
  rw [← List.append_nil V] at hcontent
  obtain ⟨-, hreads⟩ := (settled _ (mem_of_variant hvariant)).whole valueV hcontent
  exact ⟨rfl, content, reads_tag hname hvariant, hreads⟩

end

end OfferService.Json.Choice
