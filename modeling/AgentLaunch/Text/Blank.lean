/-!
# Blank text

The white space of the character database, and the texts that hold nothing else.
A blank text counts as missing wherever a launch parameter is checked.
-/

namespace AgentLaunch.Text

/-- The code points with the property White_Space. -/
def whiteSpaceCodes : List Nat :=
  [0x9, 0xA, 0xB, 0xC, 0xD, 0x20, 0x85, 0xA0, 0x1680,
    0x2000, 0x2001, 0x2002, 0x2003, 0x2004, 0x2005, 0x2006, 0x2007, 0x2008, 0x2009, 0x200A,
    0x2028, 0x2029, 0x202F, 0x205F, 0x3000]

def isWhiteSpace (c : Char) : Bool :=
  whiteSpaceCodes.contains c.toNat

/-- A text is blank when all its characters are white space. -/
def isBlank (s : String) : Bool :=
  s.toList.all isWhiteSpace

/-- The characters that are left when white space is removed from both ends. -/
def trim (s : List Char) : List Char :=
  ((s.dropWhile isWhiteSpace).reverse.dropWhile isWhiteSpace).reverse

theorem isBlank_append (s t : String) : isBlank (s ++ t) = (isBlank s && isBlank t) := by
  simp [isBlank]

end AgentLaunch.Text
