import Mathlib.Data.List.Forall2
import OfferService.Json.Record
import OfferService.Proofs.Fallible
import OfferService.Proofs.Json.Lexing
import OfferService.Proofs.Json.Walking

/-
  OfferService.Proofs.Json.Reading

  What readers take. A reader takes exactly the tokens of one value, and whether it does depends
  neither on what follows the value nor on where its tokens come from (`Settled`). Both hold of
  whatever readers are made of, so they are shown for each way of making one.
-/
namespace OfferService.Json

/-! ## Taking a value -/

/-- Does the reader take these tokens, whatever follows them? -/
def Reads (r : Reader α) (v : List Token) (a : α) : Prop :=
  ∀ rest, r (v ++ rest) = .ok (a, rest)

/-- When a value is read, it is read as a whole, and the same from any origin. -/
structure Settled (r : Origin → Reader α) : Prop where
  whole : ∀ {depth : Nat} {v : List Token}, IsValue depth v →
    ∀ {origin : Origin} {rest out : List Token} {a : α},
      r origin (v ++ rest) = .ok (a, out) → out = rest ∧ ∀ origin, Reads (r origin) v a

/-! ## Scalars -/

variable {v : List Token} {depth : Nat}

theorem Reads.map {r : Reader α} {a : α} (h : Reads r v a) (f : α → β) :
    Reads (r.map f) v (f a) := by
  intro rest
  rw [Reader.map, h rest]
  rfl

theorem Reader.exists_of_map {r : Reader α} {f : α → β} {ts rest : List Token} {b : β}
    (h : r.map f ts = .ok (b, rest)) : ∃ a, r ts = .ok (a, rest) ∧ f a = b := by
  obtain ⟨⟨a, left⟩, hr, heq⟩ := exists_of_map_eq_ok h
  cases heq
  exact ⟨a, hr, rfl⟩

theorem Settled.map {r : Origin → Reader α} (h : Settled r) (f : α → β) :
    Settled fun origin => (r origin).map f where
  whole value _ _ _ _ hread := by
    obtain ⟨a, hr, rfl⟩ := Reader.exists_of_map hread
    exact (h.whole value hr).imp_right fun reads origin => (reads origin).map f

theorem settled_natural (bits : Nat) : Settled fun _ => natural bits where
  whole value _ rest _ _ h := by
    cases value with
    | @number _ numeral =>
      cases numeral with
      | natural m =>
        have hread : ∀ rest, natural bits ([.number (.natural m)] ++ rest) =
            if m < Nat.pow 2 bits then .ok (m, rest)
            else .error (.here (.outOfRange m (.natural bits))) := fun rest => rfl
        rw [hread] at h
        by_cases hlt : m < Nat.pow 2 bits
        · rw [if_pos hlt] at h
          cases h
          exact ⟨rfl, fun _ rest => by rw [hread, if_pos hlt]⟩
        · rw [if_neg hlt] at h
          cases h
      | _ => cases h
    | _ => cases h

theorem settled_boolean : Settled fun _ => boolean where
  whole value _ _ _ _ h := by
    cases value with
    | boolean =>
      cases h
      exact ⟨rfl, fun _ _ => rfl⟩
    | _ => cases h

theorem settled_word64 : Settled fun _ => word64 := (settled_natural 64).map UInt64.ofNat

theorem reads_boolean (b : Bool) : Reads boolean [.boolean b] b := fun _ => rfl

/-- A number of 64 bits is read exactly. -/
theorem reads_word64 (n : UInt64) : Reads word64 [.number (.natural n.toNat)] n := by
  have hnatural : Reads (natural 64) [.number (.natural n.toNat)] n.toNat :=
    fun _ => if_pos n.toNat_lt
  have hread := hnatural.map UInt64.ofNat
  rwa [UInt64.ofNat_toNat] at hread

/-! ## Separators -/

theorem IsValue.ne_nil (h : IsValue depth v) : v ≠ [] := by
  obtain ⟨t, ts, rfl, -⟩ := h.exists_cons
  exact List.cons_ne_nil t ts

theorem length_le_parts {vs : List (List Token)} (some : ∀ v ∈ vs, v ≠ []) (isFirst : Bool) :
    vs.length ≤ (parts isFirst vs).length := by
  induction vs generalizing isFirst with
  | nil => exact Nat.zero_le _
  | cons v vs ih =>
    obtain ⟨hv, hvs⟩ := List.forall_mem_cons.mp some
    have hpos := List.length_pos_iff.mpr hv
    have hrest := ih hvs false
    cases isFirst <;> simp [parts] <;> omega

theorem parts_append (isFirst : Bool) (v : List Token) (vs : List (List Token))
    (rest : List Token) : parts isFirst (v :: vs) ++ rest =
      (if isFirst then v else .comma :: v) ++ (parts false vs ++ rest) :=
  List.append_assoc _ _ _

/-- Another element comes next. -/
theorem nextElement_parts (isFirst : Bool) (value : IsValue depth v) (vs : List (List Token))
    (rest : List Token) : nextElement isFirst (parts isFirst (v :: vs) ++ rest) =
      .ok (true, v ++ (parts false vs ++ rest)) := by
  obtain ⟨t, ts, rfl, hne⟩ := value.exists_cons
  rw [parts_append]
  cases isFirst with
  | true => cases t <;> first | rfl | exact absurd rfl hne
  | false => cases t <;> first | rfl | exact absurd rfl hne

/-- Another member comes next. -/
theorem nextKey_parts (isFirst : Bool) (name : String) (v : List Token)
    (vs : List (List Token)) (rest : List Token) :
    nextKey isFirst (parts isFirst (memberTokens (.ok name, v) :: vs) ++ rest) =
      .ok (some name, .colon :: (v ++ (parts false vs ++ rest))) := by
  rw [parts_append]
  cases isFirst <;> rfl

/-- A key that is no text ends the reading. -/
theorem nextKey_parts_error (isFirst : Bool) (b : Break) (v : List Token)
    (vs : List (List Token)) (rest : List Token) :
    nextKey isFirst (parts isFirst (memberTokens (.error b, v) :: vs) ++ rest) =
      .error (.broken b) := by
  rw [parts_append]
  cases isFirst <;> rfl

/-! ## Sequences -/

section

variable {item : Reader α} {vs : List (List Token)}

/-- The elements that are left are read one by one. -/
theorem elements_of_reads {as : List α} (values : ∀ v ∈ vs, ∃ depth, IsValue depth v)
    (reads : List.Forall₂ (Reads item) vs as) {fuel : Nat} (enough : vs.length < fuel)
    (done : List α) (rest : List Token) :
    elements item fuel done (parts done.isEmpty vs ++ .closeArray :: rest) =
      .ok (done.reverse ++ as, rest) := by
  induction reads generalizing fuel done with
  | nil =>
    obtain ⟨fuel, rfl⟩ := Nat.exists_eq_add_of_lt enough
    rw [List.append_nil]
    rfl
  | @cons v a vs as first _ ih =>
    cases fuel with
    | zero => cases enough
    | succ fuel =>
      obtain ⟨⟨depth, hvalue⟩, hvalues⟩ := List.forall_mem_cons.mp values
      have hothers := ih hvalues (Nat.lt_of_succ_lt_succ enough) (a :: done)
      rw [elements, nextElement_parts _ hvalue]
      simp only [first _, within, Except.mapError]
      rw [List.isEmpty_cons] at hothers
      rw [hothers, List.reverse_cons, List.append_assoc]
      rfl

/-- If the elements that are left are read at all, they are read one by one. -/
theorem reads_of_elements {item : Origin → Reader α} (settled : Settled item)
    (values : ∀ v ∈ vs, ∃ depth, IsValue depth v) {origin : Origin} {fuel : Nat}
    (done : List α) {bs : List α} {rest out : List Token}
    (h : elements (item origin) fuel done (parts done.isEmpty vs ++ .closeArray :: rest) =
      .ok (bs, out)) :
    out = rest ∧ ∃ as, bs = done.reverse ++ as ∧
      ∀ origin, List.Forall₂ (Reads (item origin)) vs as := by
  induction vs generalizing fuel done with
  | nil =>
    cases fuel with
    | zero => cases h
    | succ fuel =>
      cases h
      exact ⟨rfl, [], (List.append_nil _).symm, fun _ => .nil⟩
  | cons v vs ih =>
    cases fuel with
    | zero => cases h
    | succ fuel =>
      obtain ⟨⟨depth, hvalue⟩, hvalues⟩ := List.forall_mem_cons.mp values
      rw [elements, nextElement_parts _ hvalue] at h
      dsimp only at h
      cases hitem : item origin (v ++ (parts false vs ++ .closeArray :: rest)) with
      | error e =>
        rw [hitem] at h
        cases h
      | ok read =>
        obtain ⟨a, left⟩ := read
        obtain ⟨rfl, hreads⟩ := settled.whole hvalue hitem
        rw [hitem] at h
        obtain ⟨hout, as, has, hothers⟩ := ih hvalues (a :: done) h
        refine ⟨hout, a :: as, ?_, fun origin => .cons (hreads origin) (hothers origin)⟩
        rw [has, List.reverse_cons, List.append_assoc]
        rfl

end

theorem sequence_arrayTokens (item : Reader α) (vs : List (List Token)) (rest : List Token) :
    sequence item (arrayTokens vs ++ rest) =
      elements item ((parts true vs ++ .closeArray :: rest).length + 1) []
        (parts true vs ++ .closeArray :: rest) := by
  rw [arrayTokens, List.cons_append, List.append_assoc]
  rfl

/-- There are fewer parts than tokens. -/
theorem length_lt_tokens {vs : List (List Token)} (some : ∀ v ∈ vs, v ≠ []) (isFirst : Bool)
    (rest : List Token) : vs.length < (parts isFirst vs ++ rest).length + 1 := by
  have hle := length_le_parts some isFirst
  rw [List.length_append]
  omega

/-- An array is read by reading its elements. -/
theorem reads_sequence {item : Reader α} {vs : List (List Token)} {as : List α}
    (values : ∀ v ∈ vs, ∃ depth, IsValue depth v) (reads : List.Forall₂ (Reads item) vs as) :
    Reads (sequence item) (arrayTokens vs) as := by
  intro rest
  have hsome : ∀ v ∈ vs, v ≠ [] := fun v hv => (values v hv).elim fun _ h => h.ne_nil
  rw [sequence_arrayTokens]
  exact elements_of_reads values reads (length_lt_tokens hsome true _) [] rest

theorem Settled.sequence {item : Origin → Reader α} (h : Settled item) :
    Settled fun origin => sequence (item origin) where
  whole value _ _ _ _ hread := by
    cases value with
    | @array depth vs values =>
      have hvalues : ∀ v ∈ vs, ∃ depth, IsValue depth v := fun v hv => ⟨depth, values v hv⟩
      rw [sequence_arrayTokens] at hread
      obtain ⟨hout, as, rfl, hreads⟩ := reads_of_elements h hvalues [] hread
      exact ⟨hout, fun origin => reads_sequence hvalues (hreads origin)⟩
    | _ => cases hread

/-! ## Whole texts -/

/-- A text is read as what its tokens are read as. -/
theorem read_of_reads {r : Reader α} {ts : List Token} {text : List UInt8} {a : α}
    (writing : Writing ts text) (reads : Reads r ts a) : Json.read r text = .ok a := by
  have htokens : r (tokens text) = .ok (a, []) := by
    rw [tokens_of_writing writing, ← List.append_nil ts]
    exact reads []
  rw [Json.read, htokens]
  rfl

/-- When a text is read, its tokens are, and none is left. -/
theorem eq_ok_of_read {r : Reader α} {ts : List Token} {text : List UInt8} {a : α}
    (writing : Writing ts text) (h : Json.read r text = .ok a) : r ts = .ok (a, []) := by
  rw [Json.read, tokens_of_writing writing] at h
  obtain ⟨⟨b, rest⟩, hr, h⟩ := exists_of_bind_eq_ok h
  cases rest with
  | nil =>
    cases h
    exact hr
  | cons t rest => cases h

end OfferService.Json
