import OfferService.Json.Printer
import OfferService.Json.Token

/-
  OfferService.Proofs.Json.Grammar

  What a JSON text is, told without a reader. It has two levels. Bytes spell tokens, and a text is a
  row of spelled tokens with blanks anywhere between them (`Writing`). Tokens make up values, which
  are nested to some depth (`IsValue`).

  A string is a row of pieces, each a character as it stands or by one of its escapes. An escape may
  also stand for half of a pair without the other half: such a string is well formed but no text.
-/
namespace OfferService.Json

/-! ## Numbers -/

/-- The byte of a decimal digit. -/
def digitByte (d : Nat) : UInt8 := UInt8.ofNat (d + 0x30)

/-- A row of decimal digits, not empty. -/
structure IsDigits (ds : List Nat) : Prop where
  some : ds ≠ []
  small : ∀ d ∈ ds, d < 10

/-- The digits in front of the point: no further one comes after a leading zero. -/
def IsWhole (ds : List Nat) : Prop := ds = [0] ∨ IsDigits ds ∧ ds.head? ≠ some 0

/-- The part after the point, if there is one. -/
inductive SpellsFraction : Option (List Nat) → List UInt8 → Prop
  | absent : SpellsFraction none []
  | digits {ds : List Nat} (digits : IsDigits ds) :
      SpellsFraction (some ds) (0x2e :: ds.map digitByte)

/-- The exponent, if there is one; it begins with either letter. -/
inductive SpellsExponent : Option (Bool × List Nat) → List UInt8 → Prop
  | absent : SpellsExponent none []
  | plain {letter : UInt8} {ds : List Nat} (either : letter = 0x65 ∨ letter = 0x45)
      (digits : IsDigits ds) : SpellsExponent (some (false, ds)) (letter :: ds.map digitByte)
  | up {letter : UInt8} {ds : List Nat} (either : letter = 0x65 ∨ letter = 0x45)
      (digits : IsDigits ds) :
      SpellsExponent (some (false, ds)) (letter :: 0x2b :: ds.map digitByte)
  | down {letter : UInt8} {ds : List Nat} (either : letter = 0x65 ∨ letter = 0x45)
      (digits : IsDigits ds) :
      SpellsExponent (some (true, ds)) (letter :: 0x2d :: ds.map digitByte)

/-- The sign of a number. -/
def signBytes (negative : Bool) : List UInt8 := if negative then [0x2d] else []

/-- A number: sign, digits, fraction, exponent. -/
structure SpellsNumber (t : NumberText) (sign whole fraction exponent : List UInt8) : Prop where
  sign : sign = signBytes t.negative
  whole : IsWhole t.whole ∧ whole = t.whole.map digitByte
  fraction : SpellsFraction t.fraction fraction
  exponent : SpellsExponent t.exponent exponent

/-! ## Strings -/

/-- A hexadecimal digit, in letters of either size. -/
inductive SpellsHex : Nat → UInt8 → Prop
  | decimal {n : Nat} (small : n < 10) : SpellsHex n (UInt8.ofNat (n + 0x30))
  | lower {n : Nat} (small : n < 6) : SpellsHex (n + 10) (UInt8.ofNat (n + 0x61))
  | upper {n : Nat} (small : n < 6) : SpellsHex (n + 10) (UInt8.ofNat (n + 0x41))

/-- Four hexadecimal digits. -/
inductive SpellsCode : Nat → List UInt8 → Prop
  | digits {i j k l : Nat} {a b c d : UInt8} (first : SpellsHex i a) (second : SpellsHex j b)
      (third : SpellsHex k c) (fourth : SpellsHex l d) :
      SpellsCode (((i * 16 + j) * 16 + k) * 16 + l) [a, b, c, d]

/-- The escapes of one letter. -/
def shortEscapes : List (UInt8 × Char) :=
  [(0x22, '"'), (0x5c, '\\'), (0x2f, '/'), (0x62, '\x08'), (0x66, '\x0c'), (0x6e, '\n'),
    (0x72, '\r'), (0x74, '\t')]

/-- What a piece of a string stands for. -/
inductive Piece where
  | char (c : Char)
  /-- One half of a pair, without the other half. -/
  | half (code : Nat)
  deriving DecidableEq, Repr

/-- The first halves of pairs. -/
def IsHigh (code : Nat) : Prop := 0xd800 ≤ code ∧ code ≤ 0xdbff

/-- The second halves of pairs. -/
def IsLow (code : Nat) : Prop := 0xdc00 ≤ code ∧ code ≤ 0xdfff

instance (code : Nat) : Decidable (IsHigh code) :=
  inferInstanceAs (Decidable (0xd800 ≤ code ∧ code ≤ 0xdbff))

instance (code : Nat) : Decidable (IsLow code) :=
  inferInstanceAs (Decidable (0xdc00 ≤ code ∧ code ≤ 0xdfff))

/-- A piece of a string. -/
inductive SpellsPiece : Piece → List UInt8 → Prop
  | plain {c : Char} (quote : c ≠ '"') (backslash : c ≠ '\\') (control : 0x20 ≤ c.toNat) :
      SpellsPiece (.char c) (String.utf8EncodeChar c)
  | short {b : UInt8} {c : Char} (listed : (b, c) ∈ shortEscapes) :
      SpellsPiece (.char c) [0x5c, b]
  | code {c : Char} {ds : List UInt8} (code : SpellsCode c.toNat ds) :
      SpellsPiece (.char c) (0x5c :: 0x75 :: ds)
  | pair {c : Char} {ds es : List UInt8} (large : 0x10000 ≤ c.toNat)
      (high : SpellsCode (0xd800 + (c.toNat - 0x10000) / 0x400) ds)
      (low : SpellsCode (0xdc00 + (c.toNat - 0x10000) % 0x400) es) :
      SpellsPiece (.char c) (0x5c :: 0x75 :: ds ++ 0x5c :: 0x75 :: es)
  | half {code : Nat} {ds : List UInt8} (half : IsHigh code ∨ IsLow code)
      (digits : SpellsCode code ds) : SpellsPiece (.half code) (0x5c :: 0x75 :: ds)

/-- Does no second half come first? -/
def NoLow (ps : List Piece) : Prop := ∀ code, ps.head? = some (.half code) → ¬ IsLow code

/-- A row of pieces; two halves that make a pair are one piece. -/
inductive SpellsPieces : List Piece → List UInt8 → Prop
  | nil : SpellsPieces [] []
  | cons {p : Piece} {ps : List Piece} {bs cs : List UInt8} (first : SpellsPiece p bs)
      (others : SpellsPieces ps cs) (alone : ∀ code, p = .half code → IsHigh code → NoLow ps) :
      SpellsPieces (p :: ps) (bs ++ cs)

/-- The character of a piece. -/
def Piece.char? : Piece → Option Char
  | .char c => some c
  | .half _ => none

/-- The text of a row of pieces, if it is one. -/
def textOf (ps : List Piece) : Except Break String :=
  match ps.mapM Piece.char? with
  | some cs => .ok (String.ofList cs)
  | none => .error .malformed

/-! ## Tokens -/

/-- The bytes of a token. -/
inductive Spells : Token → List UInt8 → Prop
  | openObject : Spells .openObject [0x7b]
  | closeObject : Spells .closeObject [0x7d]
  | openArray : Spells .openArray [0x5b]
  | closeArray : Spells .closeArray [0x5d]
  | comma : Spells .comma [0x2c]
  | colon : Spells .colon [0x3a]
  | null : Spells .null [0x6e, 0x75, 0x6c, 0x6c]
  | true : Spells (.boolean true) [0x74, 0x72, 0x75, 0x65]
  | false : Spells (.boolean false) [0x66, 0x61, 0x6c, 0x73, 0x65]
  | number {t : NumberText} {sign whole fraction exponent : List UInt8}
      (number : SpellsNumber t sign whole fraction exponent) :
      Spells (.number t.numeral) (sign ++ whole ++ fraction ++ exponent)
  | string {ps : List Piece} {bs : List UInt8} (pieces : SpellsPieces ps bs) :
      Spells (.string (textOf ps)) (0x22 :: (bs ++ [0x22]))

/-- Does a byte not go on with a number that stands before it? -/
def IsStop (b : UInt8) : Prop := (b < 0x30 ∨ 0x39 < b) ∧ b ≠ 0x2e ∧ b ≠ 0x65 ∧ b ≠ 0x45

instance (b : UInt8) : Decidable (IsStop b) :=
  inferInstanceAs (Decidable ((b < 0x30 ∨ 0x39 < b) ∧ b ≠ 0x2e ∧ b ≠ 0x65 ∧ b ≠ 0x45))

/-- What may stand between tokens: space, tab, line feed, carriage return. -/
def blanks : List UInt8 := [0x20, 0x09, 0x0a, 0x0d]

/-- A text of tokens, with blanks anywhere; what follows a number does not go on with it. -/
inductive Writing : List Token → List UInt8 → Prop
  | nil : Writing [] []
  | blank {ts : List Token} {b : UInt8} {text : List UInt8} (isBlank : b ∈ blanks)
      (rest : Writing ts text) : Writing ts (b :: text)
  | token {t : Token} {ts : List Token} {bs text : List UInt8} (first : Spells t bs)
      (rest : Writing ts text) (apart : ∀ n, t = .number n → ∀ b ∈ text.head?, IsStop b) :
      Writing (t :: ts) (bs ++ text)

/-! ## Values -/

/-- Parts with a comma between each two, and one in front unless they come first. -/
def parts : (isFirst : Bool) → List (List Token) → List Token
  | _, [] => []
  | isFirst, v :: vs => (if isFirst then v else .comma :: v) ++ parts false vs

/-- An array of values. -/
def arrayTokens (vs : List (List Token)) : List Token :=
  .openArray :: (parts true vs ++ [.closeArray])

/-- A member of an object. -/
def memberTokens (m : Except Break String × List Token) : List Token :=
  .string m.1 :: .colon :: m.2

/-- An object of members. -/
def objectTokens (ms : List (Except Break String × List Token)) : List Token :=
  .openObject :: (parts true (ms.map memberTokens) ++ [.closeObject])

/-- A member whose name is a text. -/
def named (m : String × List Token) : Except Break String × List Token := (.ok m.1, m.2)

/-- An object whose members have texts as names. -/
def recordTokens (ms : List (String × List Token)) : List Token := objectTokens (ms.map named)

/-- The tokens of a value in which at most `depth` containers are open at once. -/
inductive IsValue : (depth : Nat) → List Token → Prop
  | null {depth : Nat} : IsValue depth [.null]
  | boolean {depth : Nat} {b : Bool} : IsValue depth [.boolean b]
  | number {depth : Nat} {n : Numeral} : IsValue depth [.number n]
  | string {depth : Nat} {content : Except Break String} : IsValue depth [.string content]
  | array {depth : Nat} {vs : List (List Token)} (each : ∀ v ∈ vs, IsValue depth v) :
      IsValue (depth + 1) (arrayTokens vs)
  | object {depth : Nat} {ms : List (Except Break String × List Token)}
      (each : ∀ m ∈ ms, IsValue depth m.2) : IsValue (depth + 1) (objectTokens ms)

/-- A text of one value. -/
def IsText (ts : List Token) (text : List UInt8) : Prop :=
  Writing ts text ∧ ∃ depth, IsValue depth ts

mutual

/-- The tokens of a value that is written. -/
def Value.tokens : Value → List Token
  | .null => [.null]
  | .boolean b => [.boolean b]
  | .natural n => [.number (.natural n)]
  | .string s => [.string (.ok s)]
  | .array items => arrayTokens (Value.itemTokens items)
  | .object members => recordTokens (Value.memberTokens members)

/-- The tokens of each item. -/
def Value.itemTokens : List Value → List (List Token)
  | [] => []
  | v :: vs => v.tokens :: Value.itemTokens vs

/-- The name of each member, and the tokens of its value. -/
def Value.memberTokens : List (String × Value) → List (String × List Token)
  | [] => []
  | (name, v) :: ms => (name, v.tokens) :: Value.memberTokens ms

end

end OfferService.Json
