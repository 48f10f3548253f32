/-
# Blank characters

The characters that Unicode counts as white space, together with the four
information separators, and the removal of blanks from both ends of a text.
-/

namespace SkillTiers

/-- The code points of the blank characters. -/
def blankCodes : List Nat := [
  0x9, 0xA, 0xB, 0xC, 0xD, 0x1C, 0x1D, 0x1E, 0x1F, 0x20, 0x85, 0xA0, 0x1680, 0x2000, 0x2001,
  0x2002, 0x2003, 0x2004, 0x2005, 0x2006, 0x2007, 0x2008, 0x2009, 0x200A, 0x2028, 0x2029,
  0x202F, 0x205F, 0x3000
]

/-- Whether a character is blank. -/
def isBlank (c : Char) : Bool :=
  blankCodes.contains c.toNat

/-- Whether a character is blank and no information separator. -/
def isWhiteSpace (c : Char) : Bool :=
  isBlank c && !(0x1C ≤ c.toNat && c.toNat ≤ 0x1F)

/-- A list of characters without those at either end that satisfy a test. -/
def trimChars (test : Char → Bool) (chars : List Char) : List Char :=
  ((chars.dropWhile test).reverse.dropWhile test).reverse

/-- A text without the blanks at either end. -/
def trimBlanks (text : String) : String :=
  String.ofList (trimChars isBlank text.toList)

end SkillTiers
