import Mathlib.Data.List.Forall2
import OfferService.Proofs.Json.Grammar
import OfferService.Proofs.Text.Utf8

/-
  OfferService.Proofs.Json.Printing

  What is printed is a text of the value. Printing puts characters one after another, so each part
  is shown to be written whatever follows it (`Goes`), as long as that does not go on with a number.
  The induction is on the value and, beside it, on the lists of its items and members.
-/
namespace OfferService.Json

/-! ## Decimal numbers -/

/-- The decimal digits of a number. -/
def decimal (n : Nat) : List Nat := if n < 10 then [n] else decimal (n / 10) ++ [n % 10]

theorem decimal_of_lt {n : Nat} (h : n < 10) : decimal n = [n] := by
  rw [decimal, if_pos h]

theorem decimal_of_le {n : Nat} (h : 10 ≤ n) : decimal n = decimal (n / 10) ++ [n % 10] := by
  rw [decimal, if_neg (Nat.not_lt.mpr h)]

theorem toDigits_eq_map (n : Nat) : Nat.toDigits 10 n = (decimal n).map Nat.digitChar := by
  induction n using Nat.strongRecOn with
  | ind n ih =>
    rw [Nat.toDigits_eq_if (by decide)]
    rcases Nat.lt_or_ge n 10 with small | large
    · rw [if_pos small, decimal_of_lt small]
      rfl
    · rw [if_neg (Nat.not_lt.mpr large), decimal_of_le large, ih (n / 10) (by omega),
        List.map_append]
      rfl

theorem decimal_small (n : Nat) : ∀ d ∈ decimal n, d < 10 := by
  induction n using Nat.strongRecOn with
  | ind n ih =>
    rcases Nat.lt_or_ge n 10 with small | large
    · rw [decimal_of_lt small, List.forall_mem_singleton]
      exact small
    · rw [decimal_of_le large, List.forall_mem_append, List.forall_mem_singleton]
      exact ⟨ih (n / 10) (by omega), Nat.mod_lt n (by decide)⟩

/-- A number that is not zero does not begin with a zero. -/
theorem head?_decimal {n : Nat} (pos : 0 < n) : ∃ d, 0 < d ∧ (decimal n).head? = some d := by
  induction n using Nat.strongRecOn with
  | ind n ih =>
    rcases Nat.lt_or_ge n 10 with small | large
    · exact ⟨n, pos, by rw [decimal_of_lt small]; rfl⟩
    · obtain ⟨d, hd, hhead⟩ := ih (n / 10) (by omega) (by omega)
      refine ⟨d, hd, ?_⟩
      rw [decimal_of_le large, List.head?_append, hhead]
      rfl

theorem isWhole_decimal (n : Nat) : IsWhole (decimal n) := by
  rcases Nat.eq_zero_or_pos n with rfl | pos
  · exact .inl (decimal_of_lt (by decide))
  · obtain ⟨d, hd, hhead⟩ := head?_decimal pos
    refine .inr ⟨⟨fun empty => ?_, decimal_small n⟩, ?_⟩
    · rw [empty] at hhead
      cases hhead
    · rw [hhead]
      exact fun h => absurd (Option.some.inj h) (Nat.ne_of_gt hd)

theorem takeDigits_append {acc n : Nat} {ds : List Nat}
    (taken : NumberText.takeDigits acc ds = (n, [])) (es : List Nat) :
    NumberText.takeDigits acc (ds ++ es) = NumberText.takeDigits n es := by
  induction ds generalizing acc with
  | nil =>
    cases taken
    rfl
  | cons d ds ih =>
    rw [NumberText.takeDigits] at taken
    rw [List.cons_append, NumberText.takeDigits]
    split
    · rename_i fits
      rw [if_pos fits] at taken
      exact ih taken
    · rename_i large
      rw [if_neg large] at taken
      cases taken

/-- A number of 64 bits is found exactly in its digits. -/
theorem takeDigits_decimal {n : Nat} (fits : n ≤ NumberText.maxSignificand) :
    NumberText.takeDigits 0 (decimal n) = (n, []) := by
  induction n using Nat.strongRecOn with
  | ind n ih =>
    rcases Nat.lt_or_ge n 10 with small | large
    · rw [decimal_of_lt small, NumberText.takeDigits, Nat.zero_mul, Nat.zero_add, if_pos fits]
      rfl
    · have hsplit : n / 10 * 10 + n % 10 = n := Nat.div_add_mod' n 10
      have htaken := ih (n / 10) (by omega) (Nat.le_trans (Nat.div_le_self n 10) fits)
      rw [decimal_of_le large, takeDigits_append htaken, NumberText.takeDigits, hsplit,
        if_pos fits]
      rfl

theorem numeral_decimal {n : Nat} (fits : n ≤ NumberText.maxSignificand) :
    ({ whole := decimal n } : NumberText).numeral = .natural n := by
  show (if (NumberText.takeDigits 0 (decimal n)).2.isEmpty then _ else _) = _
  rw [takeDigits_decimal fits]
  rfl

theorem flatMap_digits {ds : List Nat} (small : ∀ d ∈ ds, d < 10) :
    (ds.map Nat.digitChar).flatMap String.utf8EncodeChar = ds.map digitByte := by
  have hall : ∀ d : Fin 10, String.utf8EncodeChar (Nat.digitChar d.val) = [digitByte d.val] := by
    decide
  induction ds with
  | nil => rfl
  | cons d ds ih =>
    obtain ⟨hd, hds⟩ := List.forall_mem_cons.mp small
    rw [List.map_cons, List.flatMap_cons, ih hds, hall ⟨d, hd⟩, List.map_cons]
    rfl

/-- The decimal text of a number of 64 bits spells it. -/
theorem spells_natural {n : Nat} (fits : n ≤ NumberText.maxSignificand) :
    Spells (.number (.natural n)) (Text.Utf8.encode (toString n)) := by
  have hbytes : Text.Utf8.encode (toString n) = [] ++ (decimal n).map digitByte ++ [] ++ [] := by
    rw [Text.Utf8.encode_eq, Nat.toString_eq_ofList_toDigits, String.toList_ofList,
      toDigits_eq_map, flatMap_digits (decimal_small n)]
    simp
  rw [hbytes, ← numeral_decimal fits]
  exact .number ⟨rfl, ⟨isWhole_decimal n, rfl⟩, .absent, .absent⟩

/-! ## Strings -/

/-- Control characters are written by their code. -/
theorem spells_byCode {c : Char} (control : c.toNat < 0x20) :
    SpellsPiece (.char c) ((escapeByCode c).flatMap String.utf8EncodeChar) := by
  have hdigit {n : Nat} (small : n < 16) : SpellsHex n
      (UInt8.ofNat (if n < 10 then n + 0x30 else n - 10 + 0x61)) := by
    split
    · rename_i decimal
      exact .decimal decimal
    · rename_i letter
      have hn : n = n - 10 + 10 := by omega
      have hlower := SpellsHex.lower (n := n - 10) (by omega)
      rwa [← hn] at hlower
  have hall : ∀ n : Fin 32, (escapeByCode (Char.ofNat n.val)).flatMap String.utf8EncodeChar =
      0x5c :: 0x75 :: [0x30, 0x30, UInt8.ofNat (n.val / 16 + 0x30),
        UInt8.ofNat (if n.val % 16 < 10 then n.val % 16 + 0x30 else n.val % 16 - 10 + 0x61)] := by
    decide +kernel
  have hbytes := hall ⟨c.toNat, control⟩
  rw [Char.ofNat_toNat] at hbytes
  have hcode : ((0 * 16 + 0) * 16 + c.toNat / 16) * 16 + c.toNat % 16 = c.toNat := by omega
  rw [hbytes]
  refine .code ?_
  conv => arg 1; rw [← hcode]
  exact .digits (.decimal (by decide)) (.decimal (by decide)) (.decimal (by omega))
    (hdigit (Nat.mod_lt _ (by decide)))

/-- Every character is written as a piece of a string. -/
theorem spells_escapeChar (c : Char) :
    SpellsPiece (.char c) ((escapeChar c).flatMap String.utf8EncodeChar) := by
  unfold escapeChar
  split
  · subst c
    exact .short (by decide)
  rename_i quote
  split
  · subst c
    exact .short (by decide)
  rename_i backslash
  split
  · subst c
    exact .short (by decide)
  split
  · subst c
    exact .short (by decide)
  split
  · subst c
    exact .short (by decide)
  split
  · subst c
    exact .short (by decide)
  split
  · subst c
    exact .short (by decide)
  split
  · rename_i control
    exact spells_byCode control
  · rename_i large
    rw [List.flatMap_singleton]
    exact .plain quote backslash (Nat.le_of_not_lt large)

theorem spells_chars (cs : List Char) : SpellsPieces (cs.map .char)
    ((cs.flatMap escapeChar).flatMap String.utf8EncodeChar) := by
  induction cs with
  | nil => exact .nil
  | cons c cs ih =>
    rw [List.flatMap_cons, List.flatMap_append]
    exact .cons (spells_escapeChar c) ih nofun

theorem textOf_chars (cs : List Char) : textOf (cs.map .char) = .ok (String.ofList cs) := by
  have hmapM : (cs.map Piece.char).mapM Piece.char? = some cs := by
    induction cs with
    | nil => rfl
    | cons c cs ih =>
      rw [List.map_cons, List.mapM_cons, ih]
      rfl
  rw [textOf, hmapM]

/-- A printed string spells its text. -/
theorem spells_string (s : String) :
    Spells (.string (.ok s)) ((stringText s).flatMap String.utf8EncodeChar) := by
  have hspells := Spells.string (spells_chars s.toList)
  rw [textOf_chars, String.ofList_toList] at hspells
  rw [stringText, List.flatMap_cons, List.flatMap_append]
  exact hspells

/-! ## Values -/

/-- Do these characters write these tokens in front of any text that does not go on with a
    number? -/
def Goes (ts : List Token) (cs : List Char) : Prop :=
  ∀ (us : List Token) (text : List UInt8), Writing us text → (∀ b ∈ text.head?, IsStop b) →
    Writing (ts ++ us) (cs.flatMap String.utf8EncodeChar ++ text)

variable {t : Token} {v : List Token} {c : Char} {cs : List Char}

theorem goes_token (spells : Spells t (cs.flatMap String.utf8EncodeChar)) : Goes [t] cs :=
  fun _ _ rest stop => .token spells rest fun _ _ => stop

/-- A mark between tokens: whatever stands before it ends there. -/
structure IsMark (t : Token) (c : Char) : Prop where
  spells : Spells t (String.utf8EncodeChar c)
  stop : ∀ b ∈ (String.utf8EncodeChar c).head?, IsStop b
  notNumber : ∀ n, t ≠ .number n

theorem isMark_of_lt (small : c.toNat < 128) (spells : Spells t [UInt8.ofNat c.toNat])
    (stop : IsStop (UInt8.ofNat c.toNat)) (notNumber : ∀ n, t ≠ .number n) : IsMark t c := by
  have hbytes := Text.Utf8.utf8EncodeChar_of_lt small
  refine ⟨?_, ?_, notNumber⟩
  · rw [hbytes]
    exact spells
  · rw [hbytes]
    rintro b ⟨⟩
    exact stop

theorem isMark_comma : IsMark .comma ',' := isMark_of_lt (by decide) .comma (by decide) nofun

theorem isMark_colon : IsMark .colon ':' := isMark_of_lt (by decide) .colon (by decide) nofun

theorem isMark_openArray : IsMark .openArray '[' :=
  isMark_of_lt (by decide) .openArray (by decide) nofun

theorem isMark_closeArray : IsMark .closeArray ']' :=
  isMark_of_lt (by decide) .closeArray (by decide) nofun

theorem isMark_openObject : IsMark .openObject '\x7b' :=
  isMark_of_lt (by decide) .openObject (by decide) nofun

theorem isMark_closeObject : IsMark .closeObject '\x7d' :=
  isMark_of_lt (by decide) .closeObject (by decide) nofun

theorem head?_mark (mark : IsMark t c) (text : List UInt8) :
    ∀ b ∈ (String.utf8EncodeChar c ++ text).head?, IsStop b := by
  have hlength := String.length_utf8EncodeChar c
  have hstop := mark.stop
  cases hbytes : String.utf8EncodeChar c with
  | nil =>
    rw [hbytes] at hlength
    exact absurd hlength (Nat.ne_of_lt c.utf8Size_pos)
  | cons d ds =>
    rw [hbytes] at hstop
    exact hstop

theorem writing_mark (mark : IsMark t c) {us : List Token} {text : List UInt8}
    (rest : Writing us text) : Writing (t :: us) (String.utf8EncodeChar c ++ text) :=
  .token mark.spells rest fun n h => absurd h (mark.notNumber n)

/-- The name of a member, with its colon. -/
theorem writing_key (name : String) {us : List Token} {text : List UInt8}
    (rest : Writing us text) : Writing (.string (.ok name) :: .colon :: us)
      ((stringText name).flatMap String.utf8EncodeChar ++ (String.utf8EncodeChar ':' ++ text)) :=
  .token (spells_string name) (writing_mark isMark_colon rest) nofun

/-- A text goes on with another, if that does not go on with a number. -/
theorem Writing.append {ts us : List Token} {text more : List UInt8} (first : Writing ts text)
    (others : Writing us more) (stop : ∀ b ∈ more.head?, IsStop b) :
    Writing (ts ++ us) (text ++ more) := by
  induction first with
  | nil => exact others
  | blank isBlank _ ih => exact .blank isBlank ih
  | @token t ts bs text spells _ apart ih =>
    rw [List.append_assoc]
    refine .token spells ih fun n hn => ?_
    cases text with
    | nil => exact stop
    | cons b text => exact apart n hn

/-- A mark in front. -/
theorem goes_cons (mark : IsMark t c) (goes : Goes v cs) : Goes (t :: v) (c :: cs) := by
  intro us text rest stop
  rw [List.flatMap_cons, List.append_assoc]
  exact writing_mark mark (goes us text rest stop)

/-- A mark at the end. -/
theorem goes_concat (mark : IsMark t c) (goes : Goes v cs) : Goes (v ++ [t]) (cs ++ [c]) := by
  intro us text rest _
  rw [List.flatMap_append, List.flatMap_singleton, List.append_assoc, List.append_assoc]
  exact goes _ _ (writing_mark mark rest) (head?_mark mark text)

/-- Parts, each after a comma. -/
theorem goes_parts_false {vs : List (List Token)} {css : List (List Char)}
    (each : List.Forall₂ Goes vs css) : Goes (parts false vs) (css.flatMap (',' :: ·)) := by
  induction each with
  | nil => exact fun _ _ rest _ => rest
  | @cons v cs vs css first _ ih =>
    intro us text rest stop
    have hothers := ih us text rest stop
    have hstop : ∀ b ∈ ((css.flatMap (',' :: ·)).flatMap String.utf8EncodeChar ++ text).head?,
        IsStop b := by
      cases css with
      | nil => exact stop
      | cons cs css =>
        rw [List.flatMap_cons, List.cons_append, List.flatMap_cons, List.append_assoc]
        exact head?_mark isMark_comma _
    have hfirst := goes_cons isMark_comma first _ _ hothers hstop
    rw [List.flatMap_cons, List.flatMap_append, List.append_assoc]
    show Writing ((.comma :: v ++ parts false vs) ++ us) _
    rw [List.append_assoc]
    exact hfirst

theorem separated_cons (cs : List Char) (css : List (List Char)) :
    separated (cs :: css) = cs ++ css.flatMap (',' :: ·) := by
  induction css generalizing cs with
  | nil => exact (List.append_nil cs).symm
  | cons ds css ih =>
    rw [separated, ih, List.flatMap_cons]
    · rfl
    · nofun

/-- Parts with a comma between each two. -/
theorem goes_parts {vs : List (List Token)} {css : List (List Char)}
    (each : List.Forall₂ Goes vs css) : Goes (parts true vs) (separated css) := by
  cases each with
  | nil => exact fun _ _ rest _ => rest
  | @cons v cs vs css first others =>
    intro us text rest stop
    have hothers := goes_parts_false others us text rest stop
    rw [separated_cons, List.flatMap_append, List.append_assoc]
    show Writing ((v ++ parts false vs) ++ us) _
    rw [List.append_assoc]
    refine first _ _ hothers ?_
    cases css with
    | nil => exact stop
    | cons cs css =>
      rw [List.flatMap_cons, List.cons_append, List.flatMap_cons, List.append_assoc]
      exact head?_mark isMark_comma _

mutual

/-- Has every number in the value 64 bits at most? -/
def Value.Fits : Value → Prop
  | .natural n => n ≤ NumberText.maxSignificand
  | .array items => Value.ItemsFit items
  | .object members => Value.MembersFit members
  | .null | .boolean _ | .string _ => True

/-- Does each item fit? -/
def Value.ItemsFit : List Value → Prop
  | [] => True
  | v :: vs => v.Fits ∧ Value.ItemsFit vs

/-- Does the value of each member fit? -/
def Value.MembersFit : List (String × Value) → Prop
  | [] => True
  | (_, v) :: ms => v.Fits ∧ Value.MembersFit ms

end

theorem Value.itemsFit_of_forall {vs : List Value} (h : ∀ v ∈ vs, v.Fits) : Value.ItemsFit vs := by
  induction vs with
  | nil => trivial
  | cons v vs ih =>
    obtain ⟨hv, hvs⟩ := List.forall_mem_cons.mp h
    exact ⟨hv, ih hvs⟩

mutual

theorem goes_value : (v : Value) → v.Fits → Goes v.tokens v.chars
  | .null, _ => goes_token .null
  | .boolean true, _ => goes_token .true
  | .boolean false, _ => goes_token .false
  | .natural n, fits => by
    have hspells := spells_natural fits
    rw [Text.Utf8.encode_eq] at hspells
    exact goes_token hspells
  | .string s, _ => goes_token (spells_string s)
  | .array items, fits =>
    goes_cons isMark_openArray (goes_concat isMark_closeArray (goes_parts (goes_items items fits)))
  | .object members, fits =>
    goes_cons isMark_openObject
      (goes_concat isMark_closeObject (goes_parts (goes_members members fits)))

theorem goes_items : (vs : List Value) → Value.ItemsFit vs →
    List.Forall₂ Goes (Value.itemTokens vs) (Value.itemChars vs)
  | [], _ => .nil
  | v :: vs, fits => .cons (goes_value v fits.1) (goes_items vs fits.2)

theorem goes_members : (ms : List (String × Value)) → Value.MembersFit ms →
    List.Forall₂ Goes (((Value.memberTokens ms).map named).map memberTokens)
      (Value.memberChars ms)
  | [], _ => .nil
  | (name, v) :: ms, fits => by
    have hvalue := goes_cons isMark_colon (goes_value v fits.1)
    refine .cons ?_ (goes_members ms fits.2)
    intro us text rest stop
    rw [List.flatMap_append, List.append_assoc]
    exact .token (spells_string name) (hvalue us text rest stop) nofun

end

/-- What is printed is a text of the value. -/
theorem writing_render {v : Value} (fits : v.Fits) :
    Writing v.tokens (Text.Utf8.encode v.render) := by
  have hgoes := goes_value v fits [] [] .nil nofun
  rw [List.append_nil, List.append_nil] at hgoes
  rw [Value.render, Text.Utf8.encode_ofList]
  exact hgoes

/-- An object of two members, with no blanks but those of their values. -/
theorem writing_pair (k l : String) {vs us : List Token} {first second : List UInt8}
    (hfirst : Writing vs first) (hsecond : Writing us second) :
    Writing (recordTokens [(k, vs), (l, us)])
      (Text.Utf8.encode ("\x7b" ++ String.ofList (stringText k) ++ ":") ++ first ++
        Text.Utf8.encode ("," ++ String.ofList (stringText l) ++ ":") ++ second ++
        Text.Utf8.encode "\x7d") := by
  have hclose := hsecond.append (writing_mark isMark_closeObject .nil)
    (head?_mark isMark_closeObject _)
  have hcomma := writing_mark isMark_comma (writing_key l hclose)
  have hopen := writing_mark isMark_openObject
    (writing_key k (hfirst.append hcomma (head?_mark isMark_comma _)))
  simpa [Text.Utf8.encode_eq, recordTokens, objectTokens, parts, memberTokens, named] using hopen

end OfferService.Json
