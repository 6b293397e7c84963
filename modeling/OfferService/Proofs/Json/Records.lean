import OfferService.Proofs.Json.Reading

/-
  OfferService.Proofs.Json.Records

  What a record is read from. An object is read if and only if its members can be gathered one by
  one (`Shape.Gathers`): a known member that is not there yet is read, one that is not known is
  passed over. This says nothing of tokens left or of fuel, so what is shown of an object is shown
  by induction on its members.
-/
namespace OfferService.Json

/-! ## Members -/

theorem length_lt_members (ms : List (Except Break String × List Token)) (isFirst : Bool)
    (rest : List Token) :
    ms.length < (parts isFirst (ms.map memberTokens) ++ rest).length + 1 := by
  have hsome : ∀ v ∈ ms.map memberTokens, v ≠ [] :=
    List.forall_mem_map.mpr fun m _ => List.cons_ne_nil _ _
  have hlt := length_lt_tokens hsome isFirst rest
  rwa [List.length_map] at hlt

/-- A draft before and after some members of an object. -/
inductive Shape.Gathers (s : Shape δ α) (origin : Origin) :
    δ → List (Except Break String × List Token) → δ → Prop
  | nil {d : δ} : Gathers s origin d [] d
  | known {d d' d'' : δ} {name : String} {v : List Token} {m : Member δ}
      {ms : List (Except Break String × List Token)} (found : s.member? name = some m)
      (isUnset : m.isSet d = false) (reads : Reads (m.read origin d) v d')
      (others : Gathers s origin d' ms d'') : Gathers s origin d ((.ok name, v) :: ms) d''
  | other {d d' : δ} {name : String} {v : List Token}
      {ms : List (Except Break String × List Token)} (unknown : s.member? name = none)
      (others : Gathers s origin d ms d') : Gathers s origin d ((.ok name, v) :: ms) d'

/-- A record whose members are read the same from any origin. -/
def Shape.IsSettled (s : Shape δ α) : Prop :=
  ∀ m ∈ s.members, ∀ d, Settled fun origin => m.read origin d

/-- A field is read as its value is. -/
theorem Member.reads_field {origin : Origin} {value : Origin → Reader β} {v : List Token} {b : β}
    (reads : Reads (value origin) v b) (name : String) (get : δ → Option β) (set : δ → β → δ)
    (d : δ) : Reads ((Member.field name get set value).read origin d) v (set d b) :=
  reads.map (set d)

theorem Member.settled_field {value : Origin → Reader β} (settled : Settled value) (name : String)
    (get : δ → Option β) (set : δ → β → δ) (d : δ) :
    Settled fun origin => (Member.field name get set value).read origin d :=
  settled.map (set d)

namespace Shape

variable {s : Shape δ α} {origin : Origin} {d d' : δ}
  {ms : List (Except Break String × List Token)}

/-- Members that can be gathered are read. -/
theorem readMembers_of_gathers (gathers : s.Gathers origin d ms d')
    (values : ∀ m ∈ ms, ∃ depth, IsValue depth m.2) {fuel : Nat} (enough : ms.length < fuel)
    (isFirst : Bool) (rest : List Token) :
    s.readMembers origin fuel isFirst d
      (parts isFirst (ms.map memberTokens) ++ .closeObject :: rest) = .ok (d', rest) := by
  -- one case for each rule, which is what one turn of the reader does
  induction gathers generalizing fuel isFirst with
  | nil =>
    cases fuel with
    | zero => cases enough
    | succ fuel => rfl
  | known found isUnset reads _ ih =>
    cases fuel with
    | zero => cases enough
    | succ fuel =>
      have hothers := ih (List.forall_mem_cons.mp values).2 (Nat.lt_of_succ_lt_succ enough) false
      rw [readMembers, List.map_cons, nextKey_parts]
      simp only [bind, Except.bind, found, isUnset, Bool.false_eq_true, if_false, colon, reads _,
        within, Except.mapError, hothers]
  | other unknown _ ih =>
    cases fuel with
    | zero => cases enough
    | succ fuel =>
      obtain ⟨⟨depth, hvalue⟩, hvalues⟩ := List.forall_mem_cons.mp values
      have hothers := ih hvalues (Nat.lt_of_succ_lt_succ enough) false
      rw [readMembers, List.map_cons, nextKey_parts]
      simp only [bind, Except.bind, unknown, colon, skipValue_append hvalue, unbroken,
        Except.mapError, hothers]

/-- Members that are read can be gathered, and nothing after them was touched. -/
theorem gathers_of_readMembers (settled : s.IsSettled)
    (values : ∀ m ∈ ms, ∃ depth, IsValue depth m.2) {fuel : Nat} (isFirst : Bool)
    {rest out : List Token}
    (h : s.readMembers origin fuel isFirst d
      (parts isFirst (ms.map memberTokens) ++ .closeObject :: rest) = .ok (d', out)) :
    out = rest ∧ ∀ origin, s.Gathers origin d ms d' := by
  induction ms generalizing fuel isFirst d with
  | nil =>
    cases fuel with
    | zero => cases h
    | succ fuel =>
      cases h
      exact ⟨rfl, fun _ => .nil⟩
  | cons m ms ih =>
    cases fuel with
    | zero => cases h
    | succ fuel =>
      obtain ⟨⟨depth, hvalue⟩, hvalues⟩ := List.forall_mem_cons.mp values
      obtain ⟨name, v⟩ := m
      -- the cases follow the reader: is the name a text, is it known, is its field still free
      obtain ⟨⟨name?, left⟩, hkey, h⟩ := exists_of_bind_eq_ok h
      rw [List.map_cons] at hkey
      cases name with
      | error b =>
        rw [nextKey_parts_error] at hkey
        cases hkey
      | ok name =>
        rw [nextKey_parts] at hkey
        cases hkey
        dsimp only at h
        cases hfound : s.member? name with
        | none =>
          rw [hfound] at h
          obtain ⟨left, hcolon, h⟩ := exists_of_bind_eq_ok h
          cases hcolon
          obtain ⟨left, hskip, h⟩ := exists_of_bind_eq_ok h
          rw [skipValue_append hvalue] at hskip
          cases hskip
          exact (ih hvalues false h).imp_right fun others origin => .other hfound (others origin)
        | some m =>
          rw [hfound] at h
          dsimp only at h
          cases hset : m.isSet d with
          | true =>
            rw [hset, if_pos rfl] at h
            cases h
          | false =>
            rw [hset, if_neg Bool.false_ne_true] at h
            obtain ⟨left, hcolon, h⟩ := exists_of_bind_eq_ok h
            cases hcolon
            obtain ⟨⟨d₁, left⟩, hread, h⟩ := exists_of_bind_eq_ok h
            have hm : m ∈ s.members := List.mem_of_find?_eq_some hfound
            obtain ⟨rfl, hreads⟩ := (settled m hm d).whole hvalue (eq_ok_of_mapError hread)
            exact (ih hvalues false h).imp_right fun others origin =>
              .known hfound hset (hreads origin) (others origin)

/-! ## Objects -/

theorem readObject_of_readMembers {ts rest : List Token} {a : α}
    (h : s.readMembers origin (ts.length + 1) true s.blank ts = .ok (d, rest))
    (built : s.build d = .ok a) : s.readObject origin ts = .ok (a, rest) := by
  rw [readObject, h]
  simp only [bind, Except.bind, built]

theorem readMembers_of_readObject {ts rest : List Token} {a : α}
    (h : s.readObject origin ts = .ok (a, rest)) :
    ∃ d, s.readMembers origin (ts.length + 1) true s.blank ts = .ok (d, rest) ∧
      s.build d = .ok a := by
  obtain ⟨⟨d, left⟩, hmembers, h⟩ := exists_of_bind_eq_ok h
  dsimp only at h
  cases hbuild : s.build d with
  | error name =>
    rw [hbuild] at h
    cases h
  | ok b =>
    rw [hbuild] at h
    cases h
    exact ⟨d, hmembers, hbuild⟩

theorem read_objectTokens (ms : List (Except Break String × List Token)) (rest : List Token) :
    s.read origin (objectTokens ms ++ rest) =
      s.readObject origin (parts true (ms.map memberTokens) ++ .closeObject :: rest) := by
  rw [objectTokens, List.cons_append, List.append_assoc]
  rfl

/-- An object is read by gathering its members. -/
theorem reads_object (gathers : s.Gathers origin s.blank ms d)
    (values : ∀ m ∈ ms, ∃ depth, IsValue depth m.2) {a : α} (built : s.build d = .ok a) :
    Reads (s.read origin) (objectTokens ms) a := by
  intro rest
  rw [read_objectTokens]
  exact readObject_of_readMembers
    (readMembers_of_gathers gathers values (length_lt_members ms true _) true rest) built

/-! ## Arrays -/

/-- An array does not end where another value comes. -/
theorem endArray_parts (origin : Origin) (i : Nat) (isFirst : Bool) {depth : Nat}
    {v : List Token} (value : IsValue depth v) {vs : List (List Token)} {rest : List Token} :
    ∃ fault, endArray origin i (parts isFirst (v :: vs) ++ rest) = .error fault := by
  obtain ⟨t, ts, rfl, hne⟩ := value.exists_cons
  rw [parts_append]
  cases isFirst with
  | true => cases t <;> cases origin <;> first | exact ⟨_, rfl⟩ | exact absurd rfl hne
  | false => cases origin <;> exact ⟨_, rfl⟩

/-- The values of an array are read as wholes, and the same from any origin. -/
theorem readValues_parts {members : List (Member δ)}
    (settled : ∀ m ∈ members, ∀ d, Settled fun origin => m.read origin d)
    {vs : List (List Token)} (values : ∀ v ∈ vs, ∃ depth, IsValue depth v) {i n : Nat}
    {rest out : List Token}
    (h : readValues origin i members d (parts (i == 0) vs ++ .closeArray :: rest) =
      .ok (d', n, out)) :
    out = rest ∧ ∀ origin more,
      readValues origin i members d (parts (i == 0) vs ++ .closeArray :: more) =
        .ok (d', n, more) := by
  induction members generalizing vs d i with
  | nil =>
    cases vs with
    | nil =>
      cases h
      exact ⟨rfl, fun _ _ => rfl⟩
    | cons v vs =>
      obtain ⟨depth, hvalue⟩ := values v List.mem_cons_self
      obtain ⟨fault, hend⟩ := endArray_parts origin i (i == 0) hvalue
      rw [readValues, hend] at h
      cases h
  | cons m members ih =>
    cases vs with
    | nil =>
      cases h
      exact ⟨rfl, fun _ _ => rfl⟩
    | cons v vs =>
      obtain ⟨⟨depth, hvalue⟩, hvalues⟩ := List.forall_mem_cons.mp values
      obtain ⟨hm, hmembers⟩ := List.forall_mem_cons.mp settled
      obtain ⟨⟨more, left⟩, hnext, h⟩ := exists_of_bind_eq_ok h
      rw [nextElement_parts _ hvalue] at hnext
      cases hnext
      obtain ⟨⟨d₁, left⟩, hread, h⟩ := exists_of_bind_eq_ok h
      obtain ⟨rfl, hreads⟩ := (hm d).whole hvalue (eq_ok_of_mapError hread)
      obtain ⟨hout, hothers⟩ := ih hmembers hvalues (i := i + 1) h
      refine ⟨hout, fun origin more => ?_⟩
      -- what comes after the first value is not the first any more
      have hlater := hothers origin more
      rw [readValues, nextElement_parts _ hvalue]
      simp only [bind, Except.bind, if_true, hreads origin _, within, Except.mapError]
      exact hlater

theorem read_arrayTokens (vs : List (List Token)) (rest : List Token) :
    s.read origin (arrayTokens vs ++ rest) =
      match s.asArray with
      | some tooShort => s.readArray origin tooShort (parts true vs ++ .closeArray :: rest)
      | none => .error (mismatch s.expected [.openArray]) := by
  rw [arrayTokens, List.cons_append, List.append_assoc]
  rfl

/-- An array of values is read as a whole, and the same from any origin. -/
theorem readArray_parts (settled : s.IsSettled) {vs : List (List Token)}
    (values : ∀ v ∈ vs, ∃ depth, IsValue depth v) {tooShort : Expected} {rest out : List Token}
    {a : α}
    (h : s.readArray origin tooShort (parts true vs ++ .closeArray :: rest) = .ok (a, out)) :
    out = rest ∧ ∀ origin more,
      s.readArray origin tooShort (parts true vs ++ .closeArray :: more) = .ok (a, more) := by
  obtain ⟨⟨d, length, left⟩, hread, hbuilt⟩ := exists_of_bind_eq_ok h
  obtain ⟨rfl, hagain⟩ := readValues_parts settled values hread
  dsimp only at hbuilt
  cases hbuild : s.build d with
  | error name =>
    rw [hbuild] at hbuilt
    cases hbuilt
  | ok b =>
    rw [hbuild] at hbuilt
    cases hbuilt
    refine ⟨rfl, fun origin more => ?_⟩
    have hmore : readValues origin 0 s.members s.blank (parts true vs ++ .closeArray :: more) =
        .ok (d, length, more) := hagain origin more
    rw [readArray, hmore]
    simp only [bind, Except.bind, hbuild]

/-! ## Records -/

/-- A record is read as a whole, and the same from any origin. -/
theorem settled_read (settled : s.IsSettled) : Settled s.read where
  whole value origin rest out a h := by
    cases value with
    | @object depth ms values =>
      have hvalues : ∀ m ∈ ms, ∃ depth, IsValue depth m.2 := fun m hm => ⟨depth, values m hm⟩
      rw [read_objectTokens] at h
      obtain ⟨d, hmembers, hbuild⟩ := readMembers_of_readObject h
      obtain ⟨hout, hgathers⟩ := gathers_of_readMembers settled hvalues true hmembers
      exact ⟨hout, fun origin => reads_object (hgathers origin) hvalues hbuild⟩
    | @array depth vs values =>
      have hvalues : ∀ v ∈ vs, ∃ depth, IsValue depth v := fun v hv => ⟨depth, values v hv⟩
      rw [read_arrayTokens] at h
      cases harray : s.asArray with
      | none =>
        rw [harray] at h
        cases h
      | some tooShort =>
        rw [harray] at h
        obtain ⟨hout, hagain⟩ := readArray_parts settled hvalues h
        refine ⟨hout, fun origin more => ?_⟩
        rw [read_arrayTokens, harray]
        exact hagain origin more
    | _ => cases h

end Shape

end OfferService.Json
