import ThreatModel.Text.Numeral
import ThreatModel.Yaml.Glyph
import ThreatModel.Yaml.Token

/-!
Contract: scalars between quotes.

Owns:
- the escapes between double quotes, and the doubled quote between single ones;
- the folding of line breaks: blanks around a break vanish, one break becomes a
  space, and of several breaks all but the first stay.

Does not own: which type a quoted scalar has.
-/

namespace ThreatModel.Yaml

open ThreatModel.Text

/-- The text of a gap in a quoted scalar; `none` inside stands for what is no character. -/
abbrev Letters := List (Option Char)

def letters (text : List Char) : Letters :=
  text.map some

/-! ## Escapes -/

/-- The characters that one letter or sign after a backslash stands for. -/
def shortEscapes : List (Char × Char) :=
  [('0', '\x00'), ('a', '\x07'), ('b', '\x08'), ('t', '\t'), ('\t', '\t'), ('n', '\n'),
    ('v', '\x0B'), ('f', '\x0C'), ('r', '\r'), ('e', '\x1B'), (' ', ' '), ('\x22', '\x22'),
    ('\\', '\\'), ('/', '/'), ('N', '\u0085'), ('_', '\u00A0'), ('L', '\u2028'), ('P', '\u2029')]

/-- The letters after which a code point follows, and the number of its hexadecimal digits. -/
def longEscapes : List (Char × Nat) :=
  [('x', 2), ('u', 4), ('U', 8)]

/-- The character of a code point, where surrogates have none. -/
def charOfCodePoint (value : Nat) : Except Fault (Option Char) :=
  if 0x110000 ≤ value then .error .noCodePoint
  else if 0xD800 ≤ value ∧ value < 0xE000 then .ok none
  else .ok (some (Char.ofNat value))

/-- What an escape stands for, from the character after the backslash on. -/
def escapedChar (glyphs : List Glyph) : Except Fault (Option Char × List Glyph) :=
  match shortEscapes.lookup (next glyphs), longEscapes.lookup (next glyphs) with
  | some character, _ => .ok (some character, glyphs.drop 1)
  | none, some count =>
      let digits := ((glyphs.drop 1).take count).map Glyph.char
      if digits.length = count ∧ digits.all isHexDigit then
        (charOfCodePoint ((naturalInBase? 16 digits).getD 0)).map fun letter =>
          (letter, glyphs.drop (count + 1))
      else
        .error .malformed
  | none, none => .error .malformed

/-! ## Gaps -/

/-- Line breaks and the blanks around them. No line may look like the end of the document. -/
def quotedBreaks :
    (lineStart : Bool) →
    List Glyph →
    Except Fault (List Char × List Glyph)
  | _, [] => .ok ([], [])
  | lineStart, glyph :: rest =>
      if lineStart && marksAnyDocument (glyph :: rest) then .error .malformed
      else if isSpaceOrTab glyph.char then quotedBreaks false rest
      else if isBreak glyph.char then
        (quotedBreaks true rest).map fun (breaks, rest) => (breakText glyph.char :: breaks, rest)
      else .ok ([], glyph :: rest)

/-- The text that a first line break and those after it fold to. -/
def foldBreaks
    (first : Char)
    (others : List Char) :
    List Char :=
  if first ≠ '\n' then first :: others
  else if others.isEmpty then [' ']
  else others

/-- The blanks within a line, or the fold of line breaks. -/
def quotedGap (glyphs : List Glyph) : Except Fault (List Char × List Glyph) :=
  let (blanks, rest) := rowOf isSpaceOrTab glyphs
  if isBreak (next rest) then
    (quotedBreaks true (rest.drop 1)).map fun (others, after) =>
      (foldBreaks (breakText (next rest)) others, after)
  else
    .ok (blanks, rest)

/-! ## Scalars -/

/-- Reads one piece of a quoted scalar that does not end here. -/
def quotedPiece
    (double : Bool)
    (glyphs : List Glyph) :
    Except Fault (Letters × List Glyph) :=
  let character := next glyphs
  if character = endChar then .error .malformed
  else if isSpaceOrTab character || isBreak character then
    (quotedGap glyphs).map fun (text, rest) => (letters text, rest)
  else if !double && character = quoteMark then
    .ok ([some quoteMark], glyphs.drop 2)
  else if double && character = '\\' then
    if isBreak (nextAfter 1 glyphs) then
      (quotedBreaks true (glyphs.drop 2)).map fun (text, rest) => (letters text, rest)
    else
      (escapedChar (glyphs.drop 1)).map fun (letter, rest) => ([letter], rest)
  else
    .ok ([some character], glyphs.drop 1)

/-- A quote ends the scalar, except for two single quotes in a row. -/
def endsQuoted
    (double : Bool)
    (glyphs : List Glyph) :
    Bool :=
  if double then next glyphs = doubleQuoteMark
  else next glyphs = quoteMark && nextAfter 1 glyphs ≠ quoteMark

/-- The text up to the closing quote, and what follows that. Each piece takes a character at
least. -/
def quotedLetters
    (double : Bool)
    (glyphs : List Glyph) :
    Except Fault (Letters × List Glyph) :=
  if endsQuoted double glyphs then
    .ok ([], glyphs.drop 1)
  else
    match quotedPiece double glyphs with
    | .error fault => .error fault
    | .ok (piece, rest) =>
        if rest.length < glyphs.length then
          (quotedLetters double rest).map fun (more, after) => (piece ++ more, after)
        else
          .error .malformed
termination_by glyphs.length

/-- The scalar that begins here with a quote. -/
def quotedScalar (glyphs : List Glyph) : Except Fault (ScalarText × List Glyph) :=
  (quotedLetters (next glyphs = doubleQuoteMark) (glyphs.drop 1)).map fun (text, rest) =>
    (text.mapM id, rest)

end ThreatModel.Yaml
