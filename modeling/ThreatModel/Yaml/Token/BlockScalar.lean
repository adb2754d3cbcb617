import ThreatModel.Yaml.Token.Property

/-!
Contract: scalars that consist of indented lines.

Owns:
- the header, which tells of the indentation and of the line breaks at the end;
- the lines, kept apart or folded to one where neither begins with a blank;
- the line breaks at the end: none, one, or all.

Does not own: where such a scalar may begin.
-/

namespace ThreatModel.Yaml

/-- What becomes of the line breaks at the end. -/
inductive Chomping where
  | strip
  | clip
  | keep
deriving DecidableEq, Repr

structure BlockHeader where
  chomping : Chomping
  indentation : Option Nat
deriving DecidableEq, Repr

def chomping? (character : Char) : Option Chomping :=
  if character = '+' then some .keep
  else if character = '-' then some .strip
  else none

/-- An indentation from one to nine. -/
def blockIndentation (glyphs : List Glyph) : Except Fault (Option Nat × List Glyph) :=
  let character := next glyphs
  if character = '0' then .error .malformed
  else if character.isDigit then .ok (some (character.toNat - '0'.toNat), glyphs.drop 1)
  else .ok (none, glyphs)

/-- Both parts of the header may be left out, and come in either order. -/
def blockHeader (glyphs : List Glyph) : Except Fault (BlockHeader × List Glyph) := do
  let (header, rest) ←
    match chomping? (next glyphs) with
    | some chomping => do
        let (indentation, rest) ← blockIndentation (glyphs.drop 1)
        pure (BlockHeader.mk chomping indentation, rest)
    | none => do
        let (indentation, rest) ← blockIndentation glyphs
        match indentation, chomping? (next rest) with
        | some _, some chomping => pure (BlockHeader.mk chomping indentation, rest.drop 1)
        | _, _ => pure (BlockHeader.mk .clip indentation, rest)
  if isSpaceBreakOrEnd (next rest) then return (header, ← endOfLine rest)
  else .error .malformed

/-! ## Lines -/

/-- The empty lines from here on, with the spaces of the first other line up to an indentation. -/
def blockBreaks (indentation : Nat) : List Glyph → List Char × List Glyph
  | [] => ([], [])
  | glyph :: rest =>
      if glyph.char = ' ' && decide (glyph.column < indentation) then blockBreaks indentation rest
      else if isBreak glyph.char then
        let (breaks, after) := blockBreaks indentation rest
        (breakText glyph.char :: breaks, after)
      else ([], glyph :: rest)

/-- The empty lines from here on, with all spaces of the first other line, and the greatest number
of spaces in one of these lines. -/
def leadingBreaks : List Glyph → List Char × Nat × List Glyph
  | [] => ([], 0, [])
  | glyph :: rest =>
      if glyph.char = ' ' then
        let (breaks, widest, after) := leadingBreaks rest
        (breaks, max widest (glyph.column + 1), after)
      else if isBreak glyph.char then
        let (breaks, widest, after) := leadingBreaks rest
        (breakText glyph.char :: breaks, widest, after)
      else ([], 0, glyph :: rest)

/-- The lines of a block scalar, with the last break and the empty lines after it kept apart. -/
structure BlockLines where
  text : List Char
  lastBreak : List Char
  emptyLines : List Char
  rest : List Glyph

/-- A further line begins here. -/
def continuesBlock
    (indentation : Nat)
    (glyphs : List Glyph) :
    Bool :=
  column glyphs = indentation && next glyphs ≠ endChar

/-- What stands between two lines that have no empty lines between them, or before such empty
lines: a folded break vanishes where both lines begin with ink. -/
def blockJoint
    (folded : Bool)
    (lineBreak : List Char)
    (inked : Bool)
    (emptyLines : List Char) :
    List Char :=
  if folded && lineBreak = ['\n'] && inked then
    if emptyLines.isEmpty then [' '] else []
  else
    lineBreak

def blockLines
    (folded : Bool)
    (indentation : Nat)
    (emptyLines : List Char)
    (glyphs : List Glyph) :
    BlockLines :=
  if continuesBlock indentation glyphs then
    let (line, atBreak) := rowOf (fun character => !isBreakOrEnd character) glyphs
    let lineBreak := if isBreak (next atBreak) then [breakText (next atBreak)] else []
    let afterBreak := if isBreak (next atBreak) then atBreak.drop 1 else atBreak
    let (others, after) := blockBreaks indentation afterBreak
    if continuesBlock indentation after && decide (after.length < glyphs.length) then
      let inked := !isSpaceOrTab (next glyphs) && !isSpaceOrTab (next after)
      let more := blockLines folded indentation others after
      { more with
        text := emptyLines ++ line ++ blockJoint folded lineBreak inked others ++ more.text }
    else
      ⟨emptyLines ++ line, lineBreak, others, after⟩
  else
    ⟨[], [], emptyLines, glyphs⟩
termination_by glyphs.length
decreasing_by simp_all

/-! ## Scalars -/

def BlockLines.chomp
    (lines : BlockLines)
    (chomping : Chomping) :
    List Char :=
  match chomping with
  | .strip => lines.text
  | .clip => lines.text ++ lines.lastBreak
  | .keep => lines.text ++ lines.lastBreak ++ lines.emptyLines

/-- The scalar that begins here with its sign. `least` is the least indentation of its lines; where
the header is silent, the first lines set the indentation. -/
def blockScalar
    (least : Nat)
    (glyphs : List Glyph) :
    Except Fault (List Char × List Glyph) := do
  let (header, rest) ← blockHeader (glyphs.drop 1)
  let (indentation, emptyLines, rest) :=
    match header.indentation with
    | some more =>
        let indentation := least + more - 1
        let (emptyLines, after) := blockBreaks indentation rest
        (indentation, emptyLines, after)
    | none =>
        let (emptyLines, widest, after) := leadingBreaks rest
        (max least widest, emptyLines, after)
  let lines := blockLines (next glyphs = '>') indentation emptyLines rest
  return (lines.chomp header.chomping, lines.rest)

end ThreatModel.Yaml
