import OfferService.Json.Lexer
import OfferService.Proofs.Json.Grammar
import OfferService.Proofs.Text.Utf8

/-
  OfferService.Proofs.Json.Strings

  The lexer reads a string piece by piece. A first half of a pair waits for its second; anything
  else that comes instead settles it, and then the string is no text. So a state of the lexer is
  described by what the string becomes if some pieces follow (`StringState.outcome`), and a piece
  that was read is taken off their front.
-/
namespace OfferService.Json

/-! ## What a string becomes -/

namespace StringState

variable {s s' : StringState} {c : Char}

/-- Takes a character: a half that still waits for its other half has come to nothing. -/
structure Takes (s : StringState) (c : Char) (s' : StringState) : Prop where
  part : s'.part = .plain
  half : s'.half = none
  spoiled : s'.spoiled = (s.spoiled || s.half.isSome)
  bytes : s'.spoiled = false → s'.bytes = (String.utf8EncodeChar c).reverse ++ s.bytes

/-- The string after more characters, as they stand. -/
def extended (s : StringState) (cs : List Char) : StringState :=
  { s with bytes := (cs.flatMap String.utf8EncodeChar).reverse ++ s.bytes }

/-- What a string becomes if these pieces follow. -/
def outcome (s : StringState) (ps : List Piece) : Except Break String :=
  match ps.mapM Piece.char? with
  | none => .error .malformed
  | some cs => (s.extended cs).content

theorem settleHalf_eq (s : StringState) :
    s.settleHalf = { s with spoiled := s.spoiled || s.half.isSome, half := none } := by
  obtain ⟨part, bytes, spoiled, half⟩ := s
  cases half with
  | none => simp [settleHalf]
  | some high => simp [settleHalf, spoil]

theorem content_of_spoiled (h : (s.spoiled || s.half.isSome) = true) :
    s.content = .error .malformed := by
  rw [content, settleHalf_eq, if_pos h]

theorem content_of_bytes {cs : List Char} (good : s.spoiled = false) (alone : s.half = none)
    (bytes : s.bytes.reverse = cs.flatMap String.utf8EncodeChar) :
    s.content = .ok (String.ofList cs) := by
  rw [content, settleHalf_eq, good, alone, bytes, Text.Utf8.decode_flatMap]
  rfl

theorem outcome_of_spoiled (h : (s.spoiled || s.half.isSome) = true) (ps : List Piece) :
    s.outcome ps = .error .malformed := by
  unfold outcome
  cases ps.mapM Piece.char? with
  | none => rfl
  | some cs => exact content_of_spoiled (s := s.extended cs) h

/-- A half without the other one spoils the string. -/
theorem outcome_half (s : StringState) (code : Nat) (ps : List Piece) :
    s.outcome (.half code :: ps) = .error .malformed := rfl

theorem outcome_of_takes (h : s.Takes c s') (ps : List Piece) :
    s'.outcome ps = s.outcome (.char c :: ps) := by
  cases hspoiled : s.spoiled || s.half.isSome with
  | true =>
    have hspoiled' : (s'.spoiled || s'.half.isSome) = true := by
      rw [h.spoiled, hspoiled, Bool.true_or]
    rw [outcome_of_spoiled hspoiled, outcome_of_spoiled hspoiled']
  | false =>
    have hgood : s'.spoiled = false := h.spoiled.trans hspoiled
    obtain ⟨hold, halone⟩ := Bool.or_eq_false_iff.mp hspoiled
    have hhalf : s.half = none := Option.not_isSome_iff_eq_none.mp (Bool.eq_false_iff.mp halone)
    have hmapM : (Piece.char c :: ps).mapM Piece.char? = (ps.mapM Piece.char?).map (c :: ·) := by
      rw [List.mapM_cons]
      cases ps.mapM Piece.char? <;> rfl
    unfold outcome
    rw [hmapM]
    cases ps.mapM Piece.char? with
    | none => rfl
    | some cs =>
      have hstate : (s'.extended cs).content = (s.extended (c :: cs)).content := by
        simp only [content, settleHalf_eq, extended, hgood, h.half, hold, hhalf,
          h.bytes hgood, List.flatMap_cons, List.reverse_append, List.append_assoc]
      exact hstate

/-- What a string of pieces is, from its beginning. -/
theorem outcome_empty (ps : List Piece) : outcome {} ps = textOf ps := by
  unfold outcome textOf
  cases ps.mapM Piece.char? with
  | none => rfl
  | some cs =>
    refine content_of_bytes rfl rfl ?_
    show (_ ++ []).reverse = _
    rw [List.append_nil, List.reverse_reverse]

/-! ## Characters as they stand -/

/-- Bytes that go into the string as they are. -/
def IsPlain (b : UInt8) : Prop := b ≠ 0x5c ∧ b ≠ 0x22 ∧ ¬ b < 0x20

theorem isPlain_of_mem {b : UInt8} (quote : c ≠ '"') (backslash : c ≠ '\\')
    (control : 0x20 ≤ c.toNat) (mem : b ∈ String.utf8EncodeChar c) : IsPlain b := by
  have hne {d : UInt8} (h : b.toNat ≠ d.toNat) : b ≠ d := fun heq => h (congrArg UInt8.toNat heq)
  have hcontrol (h : 0x20 ≤ b.toNat) : ¬ b < 0x20 := by
    rw [UInt8.lt_iff_toNat_lt]
    exact Nat.not_lt.mpr h
  rcases Nat.lt_or_ge c.toNat 128 with small | large
  · rw [Text.Utf8.utf8EncodeChar_of_lt small, List.mem_singleton] at mem
    have hb : b.toNat = c.toNat := by
      rw [mem]
      exact UInt8.toNat_ofNat_of_lt' (by show c.toNat < 256; omega)
    have hchar {d : Char} (h : c ≠ d) : c.toNat ≠ d.toNat := fun heq => h (Char.toNat_inj.mp heq)
    exact ⟨hne (hb ▸ hchar backslash), hne (hb ▸ hchar quote), hcontrol (hb ▸ control)⟩
  · have hlarge := Text.Utf8.le_of_mem_utf8EncodeChar large mem
    exact ⟨hne (Nat.ne_of_gt (Nat.lt_of_lt_of_le (by decide) hlarge)),
      hne (Nat.ne_of_gt (Nat.lt_of_lt_of_le (by decide) hlarge)),
      hcontrol (Nat.le_trans (by decide) hlarge)⟩

end StringState

namespace Lexer

variable {before : List Token} {s : StringState} {c : Char}

/-- The lexer inside a string. -/
def inside (before : List Token) (s : StringState) : Lexer :=
  { tokens := before, mode := .string s }

theorem step_plain {b : UInt8} (between : s.part = .plain) (plain : StringState.IsPlain b) :
    step (inside before s) b = inside before (s.settleHalf.pushByte b) := by
  obtain ⟨backslash, quote, control⟩ := plain
  show inString _ s b = _
  unfold inString
  rw [between]
  simp only [if_neg backslash, if_neg quote, if_neg control]
  rfl

/-- The first byte settles a half that still waits, the others just follow. -/
theorem foldl_plain {b : UInt8} {bs : List UInt8} (between : s.part = .plain)
    (plain : ∀ x ∈ b :: bs, StringState.IsPlain x) : (b :: bs).foldl step (inside before s) =
      inside before { part := .plain, bytes := (b :: bs).reverse ++ s.bytes,
                      spoiled := s.spoiled || s.half.isSome, half := none } := by
  induction bs generalizing b s with
  | nil =>
    rw [List.foldl_cons, step_plain between (plain b List.mem_cons_self), s.settleHalf_eq]
    rfl
  | cons d ds ih =>
    obtain ⟨hb, hds⟩ := List.forall_mem_cons.mp plain
    rw [List.foldl_cons, step_plain between hb, ih rfl hds, s.settleHalf_eq]
    simp [StringState.pushByte]

theorem takes_plain (between : s.part = .plain) (quote : c ≠ '"') (backslash : c ≠ '\\')
    (control : 0x20 ≤ c.toNat) : ∃ s', (String.utf8EncodeChar c).foldl step (inside before s) =
      inside before s' ∧ s.Takes c s' := by
  have hplain : ∀ b ∈ String.utf8EncodeChar c, StringState.IsPlain b :=
    fun _ mem => StringState.isPlain_of_mem quote backslash control mem
  have hlength := String.length_utf8EncodeChar c
  cases hbytes : String.utf8EncodeChar c with
  | nil =>
    rw [hbytes] at hlength
    exact absurd hlength (Nat.ne_of_lt c.utf8Size_pos)
  | cons b bs =>
    rw [hbytes] at hplain
    exact ⟨_, foldl_plain between hplain, rfl, rfl, rfl, fun _ => by rw [hbytes]⟩

/-! ## Escapes -/

theorem escape?_of_listed {b : UInt8} (listed : (b, c) ∈ shortEscapes) :
    StringState.escape? b = some c ∧ b ≠ 0x75 := by
  have hall : ∀ e ∈ shortEscapes, StringState.escape? e.1 = some e.2 ∧ e.1 ≠ 0x75 := by
    decide
  exact hall (b, c) listed

theorem takes_short {b : UInt8} (between : s.part = .plain) (listed : (b, c) ∈ shortEscapes) :
    ∃ s', [0x5c, b].foldl step (inside before s) = inside before s' ∧ s.Takes c s' := by
  obtain ⟨hescape, hne⟩ := escape?_of_listed listed
  let s₁ : StringState := { s with part := .escape }
  have hopen : step (inside before s) 0x5c = inside before s₁ := by
    show inString _ s 0x5c = _
    unfold inString
    rw [between]
    rfl
  have hclose : step (inside before s₁) b = inside before (s₁.settleHalf.push c) := by
    show inString _ s₁ b = _
    unfold inString
    simp only [s₁, if_neg hne, hescape]
    rfl
  refine ⟨s₁.settleHalf.push c, ?_, ?_⟩
  · rw [List.foldl_cons, hopen, List.foldl_cons, hclose]
    rfl
  · rw [s₁.settleHalf_eq]
    refine ⟨rfl, rfl, rfl, fun _ => ?_⟩
    show (Text.Utf8.encode (String.singleton c)).reverse ++ s.bytes = _
    rw [Text.Utf8.encode_singleton]

theorem hexDigit?_of_spells {n : Nat} {b : UInt8} (h : SpellsHex n b) :
    Text.hexDigit? b = some n ∧ n < 16 := by
  cases h with
  | decimal small =>
    have hall : ∀ n : Fin 10, Text.hexDigit? (UInt8.ofNat (n.val + 0x30)) = some n.val := by
      decide
    exact ⟨hall ⟨n, small⟩, by omega⟩
  | @lower n small =>
    have hall : ∀ n : Fin 6, Text.hexDigit? (UInt8.ofNat (n.val + 0x61)) = some (n.val + 10) := by
      decide
    exact ⟨hall ⟨n, small⟩, by omega⟩
  | @upper n small =>
    have hall : ∀ n : Fin 6, Text.hexDigit? (UInt8.ofNat (n.val + 0x41)) = some (n.val + 10) := by
      decide
    exact ⟨hall ⟨n, small⟩, by omega⟩

/-- Four digits are taken as one code. -/
theorem foldl_code (before : List Token) {code : Nat} {ds : List UInt8} (between : s.part = .plain)
    (digits : SpellsCode code ds) : ∃ part, (0x5c :: 0x75 :: ds).foldl step (inside before s) =
      inside before (({ s with part } : StringState).pushCode code) := by
  obtain @⟨i, j, k, l, a, b, c, d, first, second, third, fourth⟩ := digits
  let s₁ : StringState := { s with part := .hex [c, b, a] }
  refine ⟨.hex [c, b, a], ?_⟩
  have hopen : step (inside before s) 0x5c = inside before { s with part := .escape } := by
    show inString _ s 0x5c = _
    unfold inString
    rw [between]
    rfl
  have hcode : hexCode? [d, c, b, a] = some (((i * 16 + j) * 16 + k) * 16 + l) := by
    simp only [hexCode?, (hexDigit?_of_spells first).1, (hexDigit?_of_spells second).1,
      (hexDigit?_of_spells third).1, (hexDigit?_of_spells fourth).1, Option.bind_eq_bind,
      Option.bind_some, Nat.zero_mul, Nat.zero_add]
  have hlast : step (inside before s₁) d =
      inside before (s₁.pushCode (((i * 16 + j) * 16 + k) * 16 + l)) := by
    show inString _ s₁ d = _
    unfold inString
    simp only [s₁, List.length_cons, List.length_nil, Nat.lt_irrefl, if_false, hcode]
    rfl
  rw [List.foldl_cons, hopen]
  exact hlast

end Lexer

namespace StringState

variable {s s' : StringState} {c : Char} {code : Nat}

/-! ## Codes -/

theorem pushCode_eq (s : StringState) (code : Nat) : s.pushCode code =
    match s.half with
    | some high =>
      if IsLow code then ({ s with half := none } : StringState).push (pairChar high code)
      else { s.spoil with part := .plain }
    | none =>
      if IsHigh code then { s with part := .plain, half := some code }
      else if IsLow code then { s.spoil with part := .plain }
      else s.push (Char.ofNat code) := by
  unfold pushCode IsHigh IsLow
  simp only [Bool.and_eq_true, decide_eq_true_eq]
  cases s.half <;> rfl

/-- A character is no half of a pair. -/
theorem not_half (c : Char) : ¬ IsHigh c.toNat ∧ ¬ IsLow c.toNat := by
  have hvalid : c.toNat < 0xd800 ∨ 0xdfff < c.toNat ∧ c.toNat < 0x110000 := c.valid
  unfold IsHigh IsLow
  omega

/-- A half that still waits when something else comes spoils the string. -/
theorem takes_of_spoil (waiting : s.half.isSome = true) (part : s'.part = .plain)
    (half : s'.half = none) (spoiled : s'.spoiled = true) : s.Takes c s' where
  part := part
  half := half
  spoiled := by rw [spoiled, waiting, Bool.or_true]
  bytes good := by
    rw [spoiled] at good
    cases good

theorem takes_push (alone : s.half = none) : s.Takes c (s.push c) where
  part := rfl
  half := alone
  spoiled := by
    rw [alone]
    exact (Bool.or_false _).symm
  bytes _ := by
    show (Text.Utf8.encode (String.singleton c)).reverse ++ s.bytes = _
    rw [Text.Utf8.encode_singleton]

theorem takes_code (s : StringState) (c : Char) : s.Takes c (s.pushCode c.toNat) := by
  obtain ⟨hhigh, hlow⟩ := not_half c
  rw [pushCode_eq]
  cases hhalf : s.half with
  | some high =>
    simp only [if_neg hlow]
    exact takes_of_spoil (by rw [hhalf]; rfl) rfl rfl rfl
  | none =>
    simp only [if_neg hhigh, if_neg hlow, Char.ofNat_toNat]
    exact takes_push hhalf

/-- Both halves of a pair, one after the other. -/
theorem takes_halves {high low : Nat} (isHigh : IsHigh high) (isLow : IsLow low)
    (pair : pairChar high low = c) (s : StringState) (part : StringPart) :
    s.Takes c (({ s.pushCode high with part } : StringState).pushCode low) := by
  have hfirst : ¬ IsLow high := fun h => absurd (Nat.le_trans h.1 isHigh.2) (by decide)
  have hsecond : ¬ IsHigh low := fun h => absurd (Nat.le_trans isLow.1 h.2) (by decide)
  rw [pushCode_eq, pushCode_eq s]
  cases hhalf : s.half with
  | some high =>
    simp only [if_neg hfirst, spoil, if_neg hsecond, if_pos isLow]
    exact takes_of_spoil (by rw [hhalf]; rfl) rfl rfl rfl
  | none =>
    simp only [if_pos isHigh, if_pos isLow, pair]
    have hpush := takes_push (s := s) (c := c) hhalf
    exact ⟨rfl, rfl, hpush.spoiled, hpush.bytes⟩

/-- The halves of a large character. -/
theorem pairChar_of_large (large : 0x10000 ≤ c.toNat) :
    IsHigh (0xd800 + (c.toNat - 0x10000) / 0x400) ∧
      IsLow (0xdc00 + (c.toNat - 0x10000) % 0x400) ∧
      pairChar (0xd800 + (c.toNat - 0x10000) / 0x400)
        (0xdc00 + (c.toNat - 0x10000) % 0x400) = c := by
  have hvalid : c.toNat < 0xd800 ∨ 0xdfff < c.toNat ∧ c.toNat < 0x110000 := c.valid
  have hchar := Char.ofNat_toNat c
  generalize c.toNat = n at *
  refine ⟨⟨by omega, by omega⟩, ⟨by omega, by omega⟩, ?_⟩
  have hcode : (0xd800 + (n - 0x10000) / 0x400 - 0xd800) * 0x400 +
      (0xdc00 + (n - 0x10000) % 0x400 - 0xdc00) + 0x10000 = n := by
    omega
  rw [pairChar, hcode, hchar]

/-- After one half alone the string is spoiled, or waits for another half. -/
theorem pushCode_half (half : IsHigh code ∨ IsLow code)
    (alone : s.half.isSome = true → ¬ IsLow code) :
    (s.pushCode code).part = .plain ∧
      ((s.pushCode code).spoiled || (s.pushCode code).half.isSome) = true ∧
      ((s.pushCode code).half.isSome = true → IsHigh code) := by
  rw [pushCode_eq]
  cases hhalf : s.half with
  | some high =>
    have hlow : ¬ IsLow code := alone (by rw [hhalf]; rfl)
    dsimp only
    rw [if_neg hlow]
    exact ⟨rfl, rfl, nofun⟩
  | none =>
    by_cases hhigh : IsHigh code
    · dsimp only
      rw [if_pos hhigh]
      exact ⟨rfl, Bool.or_true _, fun _ => hhigh⟩
    · have hlow : IsLow code := half.resolve_left hhigh
      dsimp only
      rw [if_neg hhigh, if_pos hlow]
      exact ⟨rfl, rfl, nofun⟩

end StringState

namespace Lexer

variable {before : List Token} {s : StringState} {c : Char}

/-! ## Whole strings -/

/-- A piece that is a character is taken, whatever waits. -/
theorem foldl_char (before : List Token) {bs : List UInt8} (between : s.part = .plain)
    (spells : SpellsPiece (.char c) bs) :
    ∃ s', bs.foldl step (inside before s) = inside before s' ∧ s.Takes c s' := by
  cases spells with
  | plain quote backslash control => exact takes_plain between quote backslash control
  | short listed => exact takes_short between listed
  | code digits =>
    obtain ⟨part, hfold⟩ := foldl_code before between digits
    have htakes := StringState.takes_code { s with part } c
    exact ⟨_, hfold, htakes.part, htakes.half, htakes.spoiled, htakes.bytes⟩
  | @pair _ ds es large high low =>
    obtain ⟨hhigh, hlow, hpair⟩ := StringState.pairChar_of_large large
    obtain ⟨part, hfirst⟩ := foldl_code before between high
    let s₁ : StringState := ({ s with part } : StringState).pushCode
      (0xd800 + (c.toNat - 0x10000) / 0x400)
    have hbetween : s₁.part = .plain := by
      show (StringState.pushCode _ _).part = _
      rw [StringState.pushCode_eq]
      cases hhalf : s.half with
      | some half =>
        dsimp only
        rw [if_neg fun h => absurd (Nat.le_trans h.1 hhigh.2) (by decide)]
      | none =>
        dsimp only
        rw [if_pos hhigh]
    obtain ⟨next, hsecond⟩ := foldl_code before hbetween low
    have htakes := StringState.takes_halves hhigh hlow hpair { s with part } next
    refine ⟨_, ?_, htakes.part, htakes.half, htakes.spoiled, htakes.bytes⟩
    rw [List.foldl_append, hfirst]
    exact hsecond

/-- A string is read to its closing quote. The induction is on the pieces; a half that waits is no
    hindrance as long as no second half follows by itself. -/
theorem foldl_pieces (before : List Token) {ps : List Piece} {bs : List UInt8} (spells : SpellsPieces ps bs)
    (between : s.part = .plain) (alone : s.half.isSome = true → NoLow ps) :
    (bs ++ [0x22]).foldl step (inside before s) =
      { tokens := .string (s.outcome ps) :: before } := by
  induction spells generalizing s with
  | nil =>
    show inString _ s 0x22 = _
    unfold inString
    rw [between]
    rfl
  | @cons p ps bs cs first others separate ih =>
    rw [List.append_assoc, List.foldl_append]
    cases p with
    | char c =>
      obtain ⟨s', hfold, htakes⟩ := foldl_char before between first
      have hnone : s'.half.isSome = true → NoLow ps := by
        rw [htakes.half]
        nofun
      rw [hfold, ih htakes.part hnone, StringState.outcome_of_takes htakes]
    | half code =>
      cases first with
      | half either digits =>
        obtain ⟨part, hfold⟩ := foldl_code before between digits
        have halone : ({ s with part } : StringState).half.isSome = true → ¬ IsLow code :=
          fun waiting => alone waiting code rfl
        obtain ⟨hplain, hspoiled, hhigh⟩ := StringState.pushCode_half either halone
        have hnext waiting : NoLow ps := separate code rfl (hhigh waiting)
        rw [hfold, ih hplain hnext, StringState.outcome_of_spoiled hspoiled,
          StringState.outcome_half]

end Lexer

end OfferService.Json
