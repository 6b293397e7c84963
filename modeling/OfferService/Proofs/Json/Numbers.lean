import OfferService.Json.Lexer
import OfferService.Proofs.Json.Grammar

/-
  OfferService.Proofs.Json.Numbers

  The lexer reads a number to its end, which only what comes next can show: a number whose last
  digit was read may go on (`Lexer.Holds`), so it is closed by a byte that does not belong to it.
  Digits are collected last one first, in whichever part of the number they stand.
-/
namespace OfferService.Json

namespace Lexer

variable {before : List Token} {t : Token} {b : UInt8}

/-- A lexer between two tokens, after some. -/
def ready (before : List Token) : Lexer := { tokens := before }

/-- What a lexer has taken when it has read the last byte of a token. -/
inductive Holds (before : List Token) : Token → Lexer → Prop
  | token {t : Token} : Holds before t (ready (t :: before))
  /-- A number may go on, so it is not closed yet. -/
  | number {part : NumberPart} {t : NumberText} (complete : part.complete = true) :
      Holds before (.number (finished t).numeral) { tokens := before, mode := .number part t }

/-! ## What follows a number -/

theorem afterWhole_of_stop {l : Lexer} {t : NumberText} (stop : IsStop b) :
    l.afterWhole t b = l.closeNumber t b := by
  obtain ⟨-, point, e, E⟩ := stop
  unfold afterWhole
  rw [if_neg point, if_neg (not_or.mpr ⟨e, E⟩)]

theorem inNumber_of_stop {l : Lexer} {part : NumberPart} {t : NumberText}
    (complete : part.complete = true) (stop : IsStop b) :
    l.inNumber part t b = l.closeNumber t b := by
  obtain ⟨hdigit, hpoint, he, hE⟩ := stop
  have hnone : digit? b = none := by
    refine if_neg fun hrange => ?_
    rcases hdigit with h | h
    · exact UInt8.not_lt.mpr hrange.1 h
    · exact UInt8.not_lt.mpr hrange.2 h
  cases part with
  | zero =>
    unfold inNumber
    rw [hnone]
    exact afterWhole_of_stop ⟨hdigit, hpoint, he, hE⟩
  | whole =>
    unfold inNumber
    rw [hnone]
    exact afterWhole_of_stop ⟨hdigit, hpoint, he, hE⟩
  | fraction =>
    unfold inNumber
    rw [hnone]
    exact if_neg (not_or.mpr ⟨he, hE⟩)
  | exponent =>
    unfold inNumber
    rw [hnone]
  | sign | point | letter | exponentSign => cases complete

/-- A token is closed by what comes next, at the latest. -/
theorem Holds.finish_foldl {l : Lexer} (h : Holds before t l) {text : List UInt8}
    (apart : ∀ n, t = .number n → ∀ b ∈ text.head?, IsStop b) :
    (text.foldl step l).finish = (text.foldl step (ready (t :: before))).finish := by
  cases h with
  | token => rfl
  | @number part t complete =>
    cases text with
    | nil =>
      show (if part.complete then _ else _ : Lexer).tokens.reverse = _
      rw [if_pos complete]
      rfl
    | cons b text =>
      have hstop := apart _ rfl b rfl
      have hstep : step { tokens := before, mode := .number part t } b =
          step (ready (.number (finished t).numeral :: before)) b :=
        inNumber_of_stop complete hstop
      rw [List.foldl_cons, List.foldl_cons, hstep]

/-! ## Digits -/

theorem digit?_digitByte {d : Nat} (h : d < 10) : digit? (digitByte d) = some d := by
  have hall : ∀ d : Fin 10, digit? (digitByte d.val) = some d.val := by
    decide
  exact hall ⟨d, h⟩

theorem start_digit (l : Lexer) {d : Nat} (h : d < 10) : l.start (digitByte d) =
    { l with mode := .number (if d = 0 then .zero else .whole) { whole := [d] } } := by
  have hall : ∀ d : Fin 10, digitByte d.val ≠ 0x7b ∧ digitByte d.val ≠ 0x7d ∧
      digitByte d.val ≠ 0x5b ∧ digitByte d.val ≠ 0x5d ∧ digitByte d.val ≠ 0x2c ∧
      digitByte d.val ≠ 0x3a ∧ digitByte d.val ≠ 0x22 ∧ digitByte d.val ≠ 0x6e ∧
      digitByte d.val ≠ 0x74 ∧ digitByte d.val ≠ 0x66 ∧ digitByte d.val ≠ 0x2d ∧
      isBlank (digitByte d.val) = false := by
    decide
  obtain ⟨h1, h2, h3, h4, h5, h6, h7, h8, h9, h10, h11, h12⟩ := hall ⟨d, h⟩
  unfold start
  simp only [h1, h2, h3, h4, h5, h6, h7, h8, h9, h10, h11, h12, digit?_digitByte h, if_false,
    Bool.false_eq_true]
  cases d with
  | zero => rfl
  | succ d => rfl

/-- The first digit of a number, after a sign or without one. -/
theorem step_whole_first (before : List Token) {d : Nat} (h : d < 10) (negative : Bool) :
    (signBytes negative ++ [digitByte d]).foldl step (ready before) =
      { tokens := before, mode := .number (if d = 0 then .zero else .whole)
          { negative, whole := [d] } } := by
  cases negative with
  | false => exact start_digit (ready before) h
  | true =>
    show inNumber _ .sign _ (digitByte d) = _
    unfold inNumber
    rw [digit?_digitByte h]
    cases d with
    | zero => rfl
    | succ d => rfl

/-- A number with more digits in one of its parts; they are collected last one first. -/
def withDigits : NumberPart → List Nat → NumberText → NumberText
  | .fraction, ds, t => { t with fraction := t.fraction.map (ds.reverse ++ ·) }
  | .exponent, ds, t => { t with exponent := t.exponent.map fun e => (e.1, ds.reverse ++ e.2) }
  | _, ds, t => { t with whole := ds.reverse ++ t.whole }

/-- The parts of a number that may be as long as they like. -/
def IsOpenEnded (part : NumberPart) : Prop := part = .whole ∨ part = .fraction ∨ part = .exponent

theorem step_digit {part : NumberPart} (long : IsOpenEnded part) {d : Nat} (h : d < 10)
    (t : NumberText) : step { tokens := before, mode := .number part t } (digitByte d) =
      { tokens := before, mode := .number part (withDigits part [d] t) } := by
  show inNumber _ part t (digitByte d) = _
  unfold inNumber
  rw [digit?_digitByte h]
  rcases long with rfl | rfl | rfl <;> rfl

theorem withDigits_cons {part : NumberPart} (d : Nat) (ds : List Nat) (t : NumberText) :
    withDigits part ds (withDigits part [d] t) = withDigits part (d :: ds) t := by
  cases part <;> simp [withDigits, Function.comp_def]

theorem foldl_digits {part : NumberPart} (long : IsOpenEnded part) {ds : List Nat}
    (small : ∀ d ∈ ds, d < 10) (t : NumberText) :
    (ds.map digitByte).foldl step { tokens := before, mode := .number part t } =
      { tokens := before, mode := .number part (withDigits part ds t) } := by
  induction ds generalizing t with
  | nil => rcases long with rfl | rfl | rfl <;> simp [withDigits]
  | cons d ds ih =>
    obtain ⟨hd, hds⟩ := List.forall_mem_cons.mp small
    rw [List.map_cons, List.foldl_cons, step_digit long hd, ih hds, withDigits_cons]

/-! ## Numbers -/

/-- Which part of a number the first digit after a mark belongs to. -/
inductive Leads : NumberPart → NumberPart → Prop
  | point : Leads .point .fraction
  | letter : Leads .letter .exponent
  | exponentSign : Leads .exponentSign .exponent

theorem foldl_led {part next : NumberPart} (leads : Leads part next) {ds : List Nat}
    (digits : IsDigits ds) (t : NumberText) :
    (ds.map digitByte).foldl step { tokens := before, mode := .number part t } =
      { tokens := before, mode := .number next (withDigits next ds t) } := by
  obtain ⟨some, small⟩ := digits
  cases ds with
  | nil => exact absurd rfl some
  | cons d ds =>
    obtain ⟨hd, hds⟩ := List.forall_mem_cons.mp small
    have hlong : IsOpenEnded next := by
      cases leads with
      | point => exact .inr (.inl rfl)
      | letter | exponentSign => exact .inr (.inr rfl)
    have hfirst : step { tokens := before, mode := .number part t } (digitByte d) =
        { tokens := before, mode := .number next (withDigits next [d] t) } := by
      show inNumber _ part t (digitByte d) = _
      unfold inNumber
      rw [digit?_digitByte hd]
      cases leads <;> rfl
    rw [List.map_cons, List.foldl_cons, hfirst, foldl_digits hlong hds, withDigits_cons]

/-- Sign and digits in front of the point. -/
theorem foldl_whole (before : List Token) {ds : List Nat} (whole : IsWhole ds) (negative : Bool) :
    ∃ part, (part = .zero ∨ part = .whole) ∧
      (signBytes negative ++ ds.map digitByte).foldl step (ready before) =
        { tokens := before, mode := .number part { negative, whole := ds.reverse } } := by
  rcases whole with rfl | ⟨⟨some, small⟩, hzero⟩
  · exact ⟨.zero, .inl rfl, step_whole_first before (by decide) negative⟩
  · cases ds with
    | nil => exact absurd rfl some
    | cons d ds =>
      obtain ⟨hd, hds⟩ := List.forall_mem_cons.mp small
      have hne : d ≠ 0 := fun h => hzero (congrArg Option.some h)
      have hfirst := step_whole_first before hd negative
      rw [if_neg hne] at hfirst
      refine ⟨.whole, .inr rfl, ?_⟩
      rw [List.map_cons, ← List.singleton_append, ← List.append_assoc, List.foldl_append, hfirst,
        foldl_digits (.inl rfl) hds, List.reverse_cons]
      rfl

/-- The fraction, or none. -/
theorem foldl_fraction (before : List Token) {fraction : Option (List Nat)} {bs : List UInt8}
    (spells : SpellsFraction fraction bs) {part : NumberPart} (after : part = .zero ∨ part = .whole)
    {t : NumberText} (none : t.fraction = none) :
    ∃ next, (next = .zero ∨ next = .whole ∨ next = .fraction) ∧
      bs.foldl step { tokens := before, mode := .number part t } =
        { tokens := before,
          mode := .number next { t with fraction := fraction.map List.reverse } } := by
  cases spells with
  | absent =>
    refine ⟨part, after.imp_right .inl, ?_⟩
    rw [Option.map_none, ← none]
    rfl
  | @digits ds digits =>
    refine ⟨.fraction, .inr (.inr rfl), ?_⟩
    have hpoint : step { tokens := before, mode := .number part t } 0x2e =
        { tokens := before, mode := .number .point { t with fraction := some [] } } := by
      rcases after with rfl | rfl <;> rfl
    rw [List.foldl_cons, hpoint, foldl_led .point digits]
    show Lexer.mk before (.number .fraction { t with fraction := some (ds.reverse ++ []) }) = _
    rw [List.append_nil]
    rfl

/-- The exponent, or none. -/
theorem foldl_exponent (before : List Token) {exponent : Option (Bool × List Nat)} {bs : List UInt8}
    (spells : SpellsExponent exponent bs) {part : NumberPart}
    (after : part = .zero ∨ part = .whole ∨ part = .fraction) {t : NumberText}
    (none : t.exponent = none) :
    ∃ next, next.complete = true ∧
      bs.foldl step { tokens := before, mode := .number part t } =
        { tokens := before,
          mode := .number next
            { t with exponent := exponent.map fun e => (e.1, e.2.reverse) } } := by
  have hletter {letter : UInt8} (either : letter = 0x65 ∨ letter = 0x45) :
      step { tokens := before, mode := .number part t } letter =
        { tokens := before, mode := .number .letter { t with exponent := some (false, []) } } := by
    rcases either with rfl | rfl <;> rcases after with rfl | rfl | rfl <;> rfl
  cases spells with
  | absent =>
    refine ⟨part, by rcases after with rfl | rfl | rfl <;> rfl, ?_⟩
    rw [Option.map_none, ← none]
    rfl
  | @plain letter ds either digits =>
    refine ⟨.exponent, rfl, ?_⟩
    rw [List.foldl_cons, hletter either, foldl_led .letter digits]
    show Lexer.mk before (.number .exponent { t with exponent := some (false, ds.reverse ++ []) }) = _
    rw [List.append_nil]
    rfl
  | @up letter ds either digits =>
    refine ⟨.exponent, rfl, ?_⟩
    rw [List.foldl_cons, hletter either, List.foldl_cons]
    show (ds.map digitByte).foldl step
      { tokens := before, mode := .number .exponentSign { t with exponent := some (false, []) } } = _
    rw [foldl_led .exponentSign digits]
    show Lexer.mk before (.number .exponent { t with exponent := some (false, ds.reverse ++ []) }) = _
    rw [List.append_nil]
    rfl
  | @down letter ds either digits =>
    refine ⟨.exponent, rfl, ?_⟩
    rw [List.foldl_cons, hletter either, List.foldl_cons]
    show (ds.map digitByte).foldl step
      { tokens := before, mode := .number .exponentSign { t with exponent := some (true, []) } } = _
    rw [foldl_led .exponentSign digits]
    show Lexer.mk before (.number .exponent { t with exponent := some (true, ds.reverse ++ []) }) = _
    rw [List.append_nil]
    rfl

/-- A number is read with all its parts. -/
theorem holds_number {t : NumberText} {sign whole fraction exponent : List UInt8}
    (number : SpellsNumber t sign whole fraction exponent) :
    Holds before (.number t.numeral)
      ((sign ++ whole ++ fraction ++ exponent).foldl step (ready before)) := by
  obtain ⟨rfl, ⟨hwhole, rfl⟩, hfraction, hexponent⟩ := number
  obtain ⟨part, hpart, hfirst⟩ := foldl_whole before hwhole t.negative
  obtain ⟨next, hnext, hsecond⟩ := foldl_fraction before hfraction hpart
    (t := { negative := t.negative, whole := t.whole.reverse }) rfl
  obtain ⟨last, hlast, hthird⟩ := foldl_exponent before hexponent hnext
    (t := { negative := t.negative, whole := t.whole.reverse,
            fraction := t.fraction.map List.reverse }) rfl
  have hall : t = finished { negative := t.negative, whole := t.whole.reverse,
                             fraction := t.fraction.map List.reverse,
                             exponent := t.exponent.map fun e => (e.1, e.2.reverse) } := by
    simp [finished, Function.comp_def]
  rw [List.foldl_append, List.foldl_append, hfirst, hsecond, hthird]
  conv => arg 2; rw [hall]
  exact .number hlast

end Lexer

end OfferService.Json
