/-
  OfferService.Text.Blank

  White space, and text without the white space at its two ends.
-/
namespace OfferService.Text

/-- The code points of white space: the controls from tab to carriage return, the space, next
    line, no-break space, the typographic spaces and the two separators. -/
def blankCodes : List Nat :=
  [0x9, 0xa, 0xb, 0xc, 0xd, 0x20, 0x85, 0xa0, 0x1680, 0x2000, 0x2001, 0x2002, 0x2003, 0x2004,
    0x2005, 0x2006, 0x2007, 0x2008, 0x2009, 0x200a, 0x2028, 0x2029, 0x202f, 0x205f, 0x3000]

/-- Is this character white space? -/
def isBlank (c : Char) : Bool := blankCodes.contains c.toNat

/-- What is left of a text once the blanks at its end are gone. -/
def trimEnd (s : List Char) : List Char :=
  (s.reverse.dropWhile isBlank).reverse

/-- What is left of a text once the blanks at both ends are gone. -/
def trim (s : List Char) : List Char := trimEnd (s.dropWhile isBlank)

end OfferService.Text
