import ThreatModel.Text.CodePoint

/-!
Contract: the blank characters, and trimming.

Owns:
- the class of blank characters (spaces, tabs, line and paragraph separators,
  and the four information separators);
- removal of blanks from either end of a text.

Does not own: the splitting of a text at blanks or at line ends.
-/

namespace ThreatModel.Text

/-- Zero width spaces and the byte order mark are not blank. -/
def blankRanges : List (Nat × Nat) :=
  [(0x9, 0xD), (0x1C, 0x20), (0x85, 0x85), (0xA0, 0xA0), (0x1680, 0x1680), (0x2000, 0x200A),
    (0x2028, 0x2029), (0x202F, 0x202F), (0x205F, 0x205F), (0x3000, 0x3000)]

def isBlank (character : Char) : Bool :=
  inRanges blankRanges character

def trimStart (text : List Char) : List Char :=
  text.dropWhile isBlank

def trimEnd (text : List Char) : List Char :=
  (text.reverse.dropWhile isBlank).reverse

def trim (text : List Char) : List Char :=
  trimEnd (trimStart text)

theorem trimStart_cons_of_not_blank
    {character : Char}
    (rest : List Char)
    (inked : isBlank character = false) :
    trimStart (character :: rest) = character :: rest := by
  simp [trimStart, inked]

theorem trimStart_cons_of_blank
    {character : Char}
    (rest : List Char)
    (blank : isBlank character = true) :
    trimStart (character :: rest) = trimStart rest := by
  simp [trimStart, blank]

end ThreatModel.Text
