import ThreatModel.Yaml.Token.QuotedScalar

/-!
Contract: scalars without quotes.

Owns:
- where such a scalar may begin, and where it ends;
- the folding of the line breaks in it, which a smaller indentation ends.

Does not own: which type such a scalar has.
-/

namespace ThreatModel.Yaml

/-- The signs that mean something at the beginning of a token. -/
def indicators : List Char :=
  "-?:,[]\x7b\x7d#&*!|>\x27\x22%@\x60".toList

/-- The signs that flow collections are written with. -/
def flowSigns : List Char :=
  ",[]\x7b\x7d".toList

/-- A plain scalar begins here. -/
def startsPlain
    (inFlow : Bool)
    (glyphs : List Glyph) :
    Bool :=
  let character := next glyphs
  !(isGap character || character ∈ indicators) ||
    !isGap (nextAfter 1 glyphs) &&
      (character = '-' || !inFlow && (character = '?' || character = ':'))

/-- The word ends before this character. -/
def endsPlainWord
    (inFlow : Bool)
    (glyphs : List Glyph) :
    Bool :=
  let character := next glyphs
  let after := nextAfter 1 glyphs
  isGap character ||
    character = ':' && (isGap after || inFlow && after ∈ flowSigns) ||
    inFlow && (character = '?' || character ∈ flowSigns)

def plainWord (inFlow : Bool) : List Glyph → List Char × List Glyph
  | [] => ([], [])
  | glyph :: rest =>
      if endsPlainWord inFlow (glyph :: rest) then ([], glyph :: rest)
      else
        let (word, after) := plainWord inFlow rest
        (glyph.char :: word, after)

/-- Line breaks and the spaces around them, or `none` when a document begins or ends here. -/
def plainBreaks :
    (lineStart : Bool) →
    List Glyph →
    Option (List Char) × List Glyph
  | _, [] => (some [], [])
  | lineStart, glyph :: rest =>
      if lineStart && marksAnyDocument (glyph :: rest) then (none, glyph :: rest)
      else if glyph.char = ' ' then plainBreaks false rest
      else if isBreak glyph.char then
        let (breaks, after) := plainBreaks true rest
        (breaks.map (breakText glyph.char :: ·), after)
      else (some [], glyph :: rest)

/-- What lies between two words. -/
structure PlainGap where
  /-- Empty when no further word can follow. -/
  text : List Char
  crossesLine : Bool
  rest : List Glyph

def plainGap (glyphs : List Glyph) : PlainGap :=
  let (blanks, rest) := rowOf (· = ' ') glyphs
  if isBreak (next rest) then
    match plainBreaks true (rest.drop 1) with
    | (none, after) => ⟨[], true, after⟩
    | (some others, after) => ⟨foldBreaks (breakText (next rest)) others, true, after⟩
  else
    ⟨blanks, false, rest⟩

/-- A scalar with what follows it. -/
structure PlainScalar where
  text : List Char
  /-- The scalar is followed by a line break, after which a key may begin. -/
  endsLine : Bool
  rest : List Glyph

/-- The words from here on. `endsLine` tells of the gap before them. -/
def plainWords
    (inFlow : Bool)
    (indentation : Nat)
    (endsLine : Bool)
    (glyphs : List Glyph) :
    PlainScalar :=
  let (word, after) := plainWord inFlow glyphs
  if next glyphs = '#' ∨ word.isEmpty then
    ⟨[], endsLine, glyphs⟩
  else
    let gap := plainGap after
    if gap.text.isEmpty ∨ next gap.rest = '#' ∨ (!inFlow && column gap.rest < indentation) then
      ⟨word, gap.crossesLine, gap.rest⟩
    else if gap.rest.length < glyphs.length then
      let more := plainWords inFlow indentation gap.crossesLine gap.rest
      ⟨if more.text.isEmpty then word else word ++ gap.text ++ more.text, more.endsLine, more.rest⟩
    else
      ⟨word, gap.crossesLine, gap.rest⟩
termination_by glyphs.length

/-- The scalar that begins here. In block context its further lines are indented by
`indentation` at least. -/
def plainScalar
    (inFlow : Bool)
    (indentation : Nat)
    (glyphs : List Glyph) :
    PlainScalar :=
  plainWords inFlow indentation false glyphs

end ThreatModel.Yaml
