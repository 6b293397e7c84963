/-
  OfferService.Text.Utf8

  Bytes as characters, one byte at a time. A character takes one to four bytes; the first tells how
  many, and which values the second may have, so that no character is written in two ways. Bytes
  that are no text are a fault, or are replaced where something readable has to come out.
-/
namespace OfferService.Text

/-- Where and how bytes stop being text. -/
structure Utf8Fault where
  /-- The number of bytes in front that are text. -/
  validUpTo : Nat
  /-- The number of bytes after them that cannot begin a character; nothing if the bytes end before
      that is known. -/
  length : Option Nat
  deriving DecidableEq, Repr

/-- The fault in words. -/
def Utf8Fault.message (f : Utf8Fault) : String :=
  match f.length with
  | some n =>
    "invalid utf-8 sequence of " ++ toString n ++ " bytes from index " ++ toString f.validUpTo
  | none => "incomplete utf-8 byte sequence from index " ++ toString f.validUpTo

namespace Utf8

/-! ## Characters -/

/-- A character under way: the bits so far, how many bytes they came from, how many are to come, and
    the values that the next one may have. -/
structure Partial where
  bits : Nat
  taken : Nat := 1
  more : Nat
  low : UInt8 := 0x80
  high : UInt8 := 0xbf
  deriving DecidableEq, Repr

/-- What the first byte of a character says. -/
inductive Lead where
  | whole (c : Char)
  | begins (p : Partial)
  | never
  deriving DecidableEq, Repr

/-- A byte as the first of a character. -/
def lead (b : UInt8) : Lead :=
  if b < 0x80 then .whole (Char.ofNat b.toNat)
  else if 0xc2 ≤ b ∧ b ≤ 0xdf then .begins { bits := b.toNat - 0xc0, more := 1 }
  else if b = 0xe0 then .begins { bits := 0x0, more := 2, low := 0xa0 }
  else if b = 0xed then .begins { bits := 0xd, more := 2, high := 0x9f }
  else if 0xe1 ≤ b ∧ b ≤ 0xef then .begins { bits := b.toNat - 0xe0, more := 2 }
  else if b = 0xf0 then .begins { bits := 0x0, more := 3, low := 0x90 }
  else if b = 0xf4 then .begins { bits := 0x4, more := 3, high := 0x8f }
  else if 0xf1 ≤ b ∧ b ≤ 0xf3 then .begins { bits := b.toNat - 0xf0, more := 3 }
  else .never

namespace Partial

/-- May this byte come next? -/
def admits (p : Partial) (b : UInt8) : Bool := p.low ≤ b && b ≤ p.high

/-- The bits with those of one more byte. -/
def extend (p : Partial) (b : UInt8) : Nat := p.bits * 64 + (b.toNat - 0x80)

/-- Takes a byte; the character, if it was the last one. -/
def take (p : Partial) (b : UInt8) : Char ⊕ Partial :=
  if p.more ≤ 1 then .inl (Char.ofNat (p.extend b))
  else .inr { bits := p.extend b, taken := p.taken + 1, more := p.more - 1 }

end Partial

/-! ## Strict reading -/

/-- The characters so far, last one first; how many bytes they took; the character under way; and
    the fault, if there was one. -/
structure State where
  chars : List Char := []
  good : Nat := 0
  openChar : Option Partial := none
  fault : Option Utf8Fault := none
  deriving Repr

/-- Takes one byte. -/
def step (s : State) (b : UInt8) : State :=
  if s.fault.isSome then s
  else
    match s.openChar with
    | none =>
      match lead b with
      | .whole c => { s with chars := c :: s.chars, good := s.good + 1 }
      | .begins p => { s with openChar := some p }
      | .never => { s with fault := some ⟨s.good, some 1⟩ }
    | some p =>
      if p.admits b then
        match p.take b with
        | .inl c =>
          { s with chars := c :: s.chars, good := s.good + p.taken + 1, openChar := none }
        | .inr p => { s with openChar := some p }
      else { s with fault := some ⟨s.good, some p.taken⟩ }

/-- The characters of bytes. -/
def decode (bytes : List UInt8) : Except Utf8Fault (List Char) :=
  let s := bytes.foldl step {}
  match s.fault, s.openChar with
  | some f, _ => .error f
  | none, some _ => .error ⟨s.good, none⟩
  | none, none => .ok s.chars.reverse

/-! ## Lenient reading -/

/-- The character that stands for bytes that are none. -/
def replacement : Char := '\ufffd'

/-- Takes one byte between characters. -/
def begin (chars : List Char) (b : UInt8) : List Char × Option Partial :=
  match lead b with
  | .whole c => (c :: chars, none)
  | .begins p => (chars, some p)
  | .never => (replacement :: chars, none)

/-- Takes one byte; a character that cannot go on is replaced. -/
def stepLenient (s : List Char × Option Partial) (b : UInt8) : List Char × Option Partial :=
  match s.2 with
  | none => begin s.1 b
  | some p =>
    if p.admits b then
      match p.take b with
      | .inl c => (c :: s.1, none)
      | .inr p => (s.1, some p)
    else begin (replacement :: s.1) b

/-- The characters of bytes, with a replacement for every run of bytes that is none. -/
def decodeLenient (bytes : List UInt8) : List Char :=
  let (chars, openChar) := bytes.foldl stepLenient ([], none)
  (if openChar.isSome then replacement :: chars else chars).reverse

/-! ## Writing -/

/-- The bytes of a text. -/
def encode (s : String) : List UInt8 := s.toUTF8.toList

end Utf8

end OfferService.Text
