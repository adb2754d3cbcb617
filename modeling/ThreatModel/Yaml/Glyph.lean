import ThreatModel.Text.CodePoint

/-!
Contract: the characters of a YAML text, each with its place.

Owns:
- the characters that a text may hold, line breaks, and the other classes by
  which tokens are told apart;
- the place of a character, as its index, line and column;
- the mark behind the last character, which stands for a character that no text
  may hold.

Does not own: tokens.
-/

namespace ThreatModel.Yaml

open ThreatModel.Text

/-! ## Classes of characters -/

def acceptedRanges : List (Nat × Nat) :=
  [(0x9, 0xA), (0xD, 0xD), (0x20, 0x7E), (0x85, 0x85), (0xA0, 0xD7FF), (0xE000, 0xFFFD),
    (0x10000, 0x10FFFF)]

/-- The characters that may stand in a text. -/
def isAccepted (character : Char) : Bool :=
  inRanges acceptedRanges character

/-- The character of the mark behind the text. -/
def endChar : Char := '\x00'

def byteOrderMark : Char := '\uFEFF'

def isBreak (character : Char) : Bool :=
  character = '\n' || character = '\u0085' || character = '\u2028' || character = '\u2029'

/-- What a line break adds to a text: only the separators of lines and paragraphs stay as
they are. -/
def breakText (character : Char) : Char :=
  if character = '\u2028' || character = '\u2029' then character else '\n'

def isBreakOrEnd (character : Char) : Bool :=
  isBreak character || character = endChar

def isSpaceOrTab (character : Char) : Bool :=
  character = ' ' || character = '\t'

/-- A space, a line break, or the end; a tab is not among them. -/
def isSpaceBreakOrEnd (character : Char) : Bool :=
  character = ' ' || isBreakOrEnd character

/-- The characters that part words. -/
def isGap (character : Char) : Bool :=
  isSpaceOrTab character || isBreakOrEnd character

/-- Letters, digits, hyphens and underscores, of which names consist. -/
def isNameChar (character : Char) : Bool :=
  character.isAlphanum || character = '-' || character = '_'

def isHexDigit (character : Char) : Bool :=
  character.isDigit || ('a' ≤ character && character ≤ 'f') ||
    ('A' ≤ character && character ≤ 'F')

/-! ## Places -/

/-- A character at its place. Indices, lines and columns count from zero. -/
structure Glyph where
  char : Char
  index : Nat
  line : Nat
  column : Nat
deriving DecidableEq, Repr, Inhabited

namespace Glyph

/-- The characters of a text from a place on, and the mark behind them. A byte order mark takes
no column. -/
def ofCharsFrom :
    (index line column : Nat) →
    List Char →
    List Glyph
  | index, line, column, [] => [⟨endChar, index, line, column⟩]
  | index, line, column, character :: rest =>
      ⟨character, index, line, column⟩ ::
        if isBreak character then ofCharsFrom (index + 1) (line + 1) 0 rest
        else if character = byteOrderMark then ofCharsFrom (index + 1) line column rest
        else ofCharsFrom (index + 1) line (column + 1) rest

def ofChars (text : List Char) : List Glyph :=
  ofCharsFrom 0 0 0 text

end Glyph

/-! ## Looking ahead -/

/-- The next character, or the end. -/
def next (glyphs : List Glyph) : Char :=
  (glyphs.head?.map Glyph.char).getD endChar

/-- The character that comes after `count` others. -/
def nextAfter
    (count : Nat)
    (glyphs : List Glyph) :
    Char :=
  next (glyphs.drop count)

def column (glyphs : List Glyph) : Nat :=
  (glyphs.head?.map Glyph.column).getD 0

/-- The longest row of characters of a class, and what follows it. -/
def rowOf
    (belongs : Char → Bool)
    (glyphs : List Glyph) :
    List Char × List Glyph :=
  ((glyphs.takeWhile fun glyph => belongs glyph.char).map Glyph.char,
    glyphs.dropWhile fun glyph => belongs glyph.char)

def dropSpaces (glyphs : List Glyph) : List Glyph :=
  (rowOf (· = ' ') glyphs).2

/-- Three hyphens or three points that stand alone begin or end a document at the start of a
line. -/
def marksDocument
    (sign : Char)
    (glyphs : List Glyph) :
    Bool :=
  next glyphs = sign && nextAfter 1 glyphs = sign && nextAfter 2 glyphs = sign &&
    isGap (nextAfter 3 glyphs)

def marksAnyDocument (glyphs : List Glyph) : Bool :=
  marksDocument '-' glyphs || marksDocument '.' glyphs

end ThreatModel.Yaml
