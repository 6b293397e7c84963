import OfferService.Json.Token
import OfferService.Text.Number
import OfferService.Text.Utf8

/-
  OfferService.Json.Lexer

  Bytes to tokens, one byte at a time: `Lexer.step` is the whole of it, and a text is the fold of
  its bytes. Working on bytes keeps apart what belongs apart: a string is checked for well-formed
  characters when it is closed, and a hexadecimal escape is four bytes, whatever they are.
-/
namespace OfferService.Json

/-! ## States -/

/-- Where the lexer is inside a number. -/
inductive NumberPart where
  /-- After the minus sign: a digit must follow. -/
  | sign
  /-- After a leading zero: no further digit may follow. -/
  | zero
  | whole
  /-- After the point: a digit must follow. -/
  | point
  | fraction
  /-- After the exponent letter: a sign or a digit must follow. -/
  | letter
  /-- After the sign of the exponent: a digit must follow. -/
  | exponentSign
  | exponent
  deriving DecidableEq, Repr

/-- Where the lexer is inside a string. -/
inductive StringPart where
  | plain
  /-- After a backslash. -/
  | escape
  /-- Inside a hexadecimal escape, with its bytes so far, last one first. -/
  | hex (bytes : List UInt8)
  deriving DecidableEq, Repr

/-- A string under way: its bytes, last one first, whether it can still become a text, and the
    first half of a surrogate pair that waits for its second. -/
structure StringState where
  part : StringPart := .plain
  bytes : List UInt8 := []
  spoiled : Bool := false
  half : Option Nat := none
  deriving DecidableEq, Repr

/-- Is a number complete when the text ends here? -/
def NumberPart.complete : NumberPart → Bool
  | .zero | .whole | .fraction | .exponent => true
  | .sign | .point | .letter | .exponentSign => false

/-! ## Digits -/

/-- The value of a decimal digit. -/
def digit? (b : UInt8) : Option Nat :=
  if 0x30 ≤ b ∧ b ≤ 0x39 then some (b.toNat - 0x30) else none

/-- The code of four hexadecimal digits, given last one first. -/
def hexCode? : List UInt8 → Option Nat
  | [] => some 0
  | b :: before => do
    let high ← hexCode? before
    let low ← Text.hexDigit? b
    some (high * 16 + low)

/-! ## Building a string -/

namespace StringState

/-- Adds the bytes of a character. -/
def push (s : StringState) (c : Char) : StringState :=
  { s with part := .plain, bytes := (Text.Utf8.encode (String.singleton c)).reverse ++ s.bytes }

/-- Adds one byte as it stands. -/
def pushByte (s : StringState) (b : UInt8) : StringState :=
  { s with part := .plain, bytes := b :: s.bytes }

/-- Notes that the string is no text. -/
def spoil (s : StringState) : StringState :=
  { s with spoiled := true, half := none }

/-- Notes that a first half of a pair stays alone. -/
def settleHalf (s : StringState) : StringState :=
  if s.half.isSome then s.spoil else s

/-- The character of a surrogate pair. -/
def pairChar (high low : Nat) : Char :=
  Char.ofNat ((high - 0xd800) * 0x400 + (low - 0xdc00) + 0x10000)

/-- Takes the code of a hexadecimal escape. -/
def pushCode (s : StringState) (code : Nat) : StringState :=
  let isHigh : Bool := 0xd800 ≤ code && code ≤ 0xdbff
  let isLow : Bool := 0xdc00 ≤ code && code ≤ 0xdfff
  match s.half with
  | some high =>
    if isLow then { s with half := none }.push (pairChar high code)
    else { s.spoil with part := .plain }
  | none =>
    if isHigh then { s with part := .plain, half := some code }
    else if isLow then { s.spoil with part := .plain }
    else s.push (Char.ofNat code)

/-- The character that a one-letter escape stands for. -/
def escape? (b : UInt8) : Option Char :=
  if b = 0x22 then some '"'
  else if b = 0x5c then some '\\'
  else if b = 0x2f then some '/'
  else if b = 0x62 then some '\x08'
  else if b = 0x66 then some '\x0c'
  else if b = 0x6e then some '\n'
  else if b = 0x72 then some '\r'
  else if b = 0x74 then some '\t'
  else none

/-- The text of a closed string. -/
def content (s : StringState) : Except Break String :=
  if s.settleHalf.spoiled then .error .malformed
  else
    match Text.Utf8.decode s.bytes.reverse with
    | .ok cs => .ok (String.ofList cs)
    | .error _ => .error .malformed

end StringState

/-! ## The lexer -/

/-- What the lexer is in the middle of. -/
inductive Mode where
  | between
  | word (rest : List UInt8) (token : Token)
  | number (part : NumberPart) (text : NumberText)
  | string (s : StringState)
  /-- After a bad token: nothing more is read. -/
  | stuck

/-- Tokens so far, last one first, and what the lexer is in the middle of. -/
structure Lexer where
  tokens : List Token := []
  mode : Mode := .between

namespace Lexer

/-- Adds a token. -/
def emit (l : Lexer) (t : Token) : Lexer := { tokens := t :: l.tokens, mode := .between }

/-- Adds the bad token that ends the list. -/
def fail (l : Lexer) (whenRead whenPassed : Break) : Lexer :=
  { tokens := .bad whenRead whenPassed :: l.tokens, mode := .stuck }

/-- Adds a token that no text may contain. -/
def reject (l : Lexer) : Lexer := l.fail .malformed .malformed

/-- Adds the string that ends the list. -/
def failString (l : Lexer) (whenRead whenPassed : Break) : Lexer :=
  { tokens := .unclosed whenRead whenPassed :: l.tokens, mode := .stuck }

/-! ## Between tokens -/

/-- Blank bytes between tokens: space, tab, line feed, carriage return. -/
def isBlank (b : UInt8) : Bool := b == 0x20 || b == 0x09 || b == 0x0a || b == 0x0d

/-- A byte that begins a token, or a blank. -/
def start (l : Lexer) (b : UInt8) : Lexer :=
  if isBlank b then { l with mode := .between }
  else if b = 0x7b then l.emit .openObject
  else if b = 0x7d then l.emit .closeObject
  else if b = 0x5b then l.emit .openArray
  else if b = 0x5d then l.emit .closeArray
  else if b = 0x2c then l.emit .comma
  else if b = 0x3a then l.emit .colon
  else if b = 0x22 then { l with mode := .string {} }
  -- the rest of `null`, `true` and `false`
  else if b = 0x6e then { l with mode := .word [0x75, 0x6c, 0x6c] .null }
  else if b = 0x74 then { l with mode := .word [0x72, 0x75, 0x65] (.boolean true) }
  else if b = 0x66 then { l with mode := .word [0x61, 0x6c, 0x73, 0x65] (.boolean false) }
  else if b = 0x2d then { l with mode := .number .sign { negative := true } }
  else
    match digit? b with
    | some 0 => { l with mode := .number .zero { whole := [0] } }
    | some d => { l with mode := .number .whole { whole := [d] } }
    | none => l.reject

/-! ## Inside a number -/

/-- A number whose digits were collected last one first. -/
def finished (t : NumberText) : NumberText :=
  { t with
    whole := t.whole.reverse
    fraction := t.fraction.map List.reverse
    exponent := t.exponent.map fun e => (e.1, e.2.reverse) }

/-- Ends a number and begins with the byte after it. -/
def closeNumber (l : Lexer) (t : NumberText) (b : UInt8) : Lexer :=
  (l.emit (.number (finished t).numeral)).start b

/-- The point or the exponent letter after the digits so far, or the end of the number. -/
def afterWhole (l : Lexer) (t : NumberText) (b : UInt8) : Lexer :=
  if b = 0x2e then { l with mode := .number .point { t with fraction := some [] } }
  else if b = 0x65 ∨ b = 0x45 then
    { l with mode := .number .letter { t with exponent := some (false, []) } }
  else l.closeNumber t b

/-- A byte inside a number. -/
def inNumber (l : Lexer) (part : NumberPart) (t : NumberText) (b : UInt8) : Lexer :=
  let toFraction (d : Nat) : Lexer :=
    { l with mode := .number .fraction { t with fraction := t.fraction.map (d :: ·) } }
  let toExponent (d : Nat) : Lexer :=
    { l with mode := .number .exponent
                        { t with exponent := t.exponent.map fun e => (e.1, d :: e.2) } }
  match part, digit? b with
  | .sign, some 0 => { l with mode := .number .zero { t with whole := [0] } }
  | .sign, some d => { l with mode := .number .whole { t with whole := [d] } }
  | .zero, some _ => l.reject
  | .zero, none => l.afterWhole t b
  | .whole, some d => { l with mode := .number .whole { t with whole := d :: t.whole } }
  | .whole, none => l.afterWhole t b
  | .point, some d => toFraction d
  | .fraction, some d => toFraction d
  | .fraction, none =>
    if b = 0x65 ∨ b = 0x45 then
      { l with mode := .number .letter { t with exponent := some (false, []) } }
    else l.closeNumber t b
  | .letter, some d => toExponent d
  | .letter, none =>
    if b = 0x2b then { l with mode := .number .exponentSign t }
    else if b = 0x2d then
      { l with mode := .number .exponentSign { t with exponent := some (true, []) } }
    else l.reject
  | .exponentSign, some d => toExponent d
  | .exponent, some d => toExponent d
  | .exponent, none => l.closeNumber t b
  | .sign, none => l.reject
  | .point, none => l.reject
  | .exponentSign, none => l.reject

/-! ## Inside a string -/

/-- A byte inside a string. -/
def inString (l : Lexer) (s : StringState) (b : UInt8) : Lexer :=
  match s.part with
  | .plain =>
    if b = 0x5c then { l with mode := .string { s with part := .escape } }
    else if b = 0x22 then l.emit (.string s.content)
    else if b < 0x20 then l.failString .malformed .malformed
    else { l with mode := .string (s.settleHalf.pushByte b) }
  | .escape =>
    if b = 0x75 then { l with mode := .string { s with part := .hex [] } }
    else
      match StringState.escape? b with
      | some c => { l with mode := .string (s.settleHalf.push c) }
      | none => l.failString .malformed .malformed
  | .hex bytes =>
    let bytes := b :: bytes
    if bytes.length < 4 then { l with mode := .string { s with part := .hex bytes } }
    else
      match hexCode? bytes with
      | some code => { l with mode := .string (s.pushCode code) }
      | none => l.failString .malformed .malformed

/-! ## The whole text -/

/-- One byte of the text. -/
def step (l : Lexer) (b : UInt8) : Lexer :=
  match l.mode with
  | .between => l.start b
  | .word [] token => (l.emit token).start b
  | .word (w :: rest) token =>
    if b = w then
      if rest.isEmpty then l.emit token else { l with mode := .word rest token }
    else l.reject
  | .number part text => l.inNumber part text b
  | .string s => l.inString s b
  | .stuck => l

/-- The end of the text. -/
def finish (l : Lexer) : List Token :=
  let l := match l.mode with
    | .between => l
    | .stuck => l
    | .word _ _ => l.fail .endOfText .endOfText
    | .number part text =>
      if NumberPart.complete part then l.emit (.number (finished text).numeral)
      else l.fail .endOfText .malformed
    | .string s => l.failString (if s.spoiled then .malformed else .endOfText) .endOfText
  l.tokens.reverse

end Lexer

/-- The tokens of a text. -/
def tokens (text : List UInt8) : List Token := (text.foldl Lexer.step {}).finish

end OfferService.Json
