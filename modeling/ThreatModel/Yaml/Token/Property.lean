import ThreatModel.Text.Utf8
import ThreatModel.Yaml.Glyph
import ThreatModel.Yaml.Token

/-!
Contract: the tokens that tell something about a node or a document: anchors,
aliases, tags and directives.

Owns:
- names and what may follow them;
- tags with their handles, and the escapes of octets in them;
- directives, of which versions and tag handles matter.

Does not own: what tags and handles mean.
-/

namespace ThreatModel.Yaml

open ThreatModel.Text

/-! ## Anchors and aliases -/

/-- The name of an anchor ends at a gap or before one of these. -/
def endsName (character : Char) : Bool :=
  isGap character || character ∈ ['?', ':', ',', ']', '\x7d', '%', '@', '\x60']

/-- The name after the sign of an anchor or an alias. -/
def anchorName (glyphs : List Glyph) : Except Fault (List Char × List Glyph) :=
  let (name, rest) := rowOf isNameChar glyphs
  if name.isEmpty || !endsName (next rest) then .error .malformed
  else .ok (name, rest)

/-! ## Tags -/

def tagChars : List Char :=
  "-;/?:@&=+$,_.!~*\x27()[]%".toList

def isTagChar (character : Char) : Bool :=
  character.isAlphanum || character ∈ tagChars

/-- A row of octets in hexadecimal notation, each after a percent sign. -/
def escapedOctets : List Char → Option (List UInt8 × List Char)
  | '%' :: high :: low :: rest =>
      if isHexDigit high && isHexDigit low then
        (escapedOctets rest).map fun (octets, rest) =>
          (UInt8.ofNat (((baseDigit? 16 high).getD 0) * 16 + (baseDigit? 16 low).getD 0) :: octets,
            rest)
      else
        none
  | '%' :: _ => none
  | text => some ([], text)

/-- The characters that the parts of a tag stand for. Escaped octets that follow each other form
one text. -/
def unescapeTag (text : List Char) : Except Fault (List Char) :=
  match text with
  | [] => .ok []
  | character :: rest =>
      if character = '%' then
        match escapedOctets (character :: rest) with
        | none => .error .malformed
        | some (octets, after) =>
            match Utf8.decode octets with
            | .error _ => .error .malformed
            | .ok decoded =>
                if after.length < (character :: rest).length then
                  (unescapeTag after).map (decoded ++ ·)
                else
                  .error .malformed
      else
        (unescapeTag rest).map (character :: ·)
termination_by text.length
decreasing_by
  · rename_i shorter
    exact shorter
  · exact Nat.lt_succ_self _

/-- The part of a tag after its handle. -/
def tagSuffix (glyphs : List Glyph) : Except Fault (List Char × List Glyph) := do
  let (written, rest) := rowOf isTagChar glyphs
  if written.isEmpty then
    .error .malformed
  else
    return (← unescapeTag written, rest)

/-- A handle: an exclamation mark, alone or with another one after a name. -/
def tagHandle (glyphs : List Glyph) : Except Fault (List Char × List Glyph) :=
  if next glyphs ≠ '!' then .error .malformed
  else if nextAfter 1 glyphs = ' ' then .ok (['!'], glyphs.drop 1)
  else
    let (name, rest) := rowOf isNameChar (glyphs.drop 1)
    if next rest = '!' then .ok ('!' :: (name ++ ['!']), rest.drop 1)
    else .error .malformed

/-- A second exclamation mark comes before the next space. -/
def hasLongHandle (glyphs : List Glyph) : Bool :=
  '!' ∈ (rowOf (fun character => !isSpaceBreakOrEnd character) glyphs).1

/-- The tag that begins here with an exclamation mark. -/
def writtenTag (glyphs : List Glyph) : Except Fault (WrittenTag × List Glyph) := do
  let after := glyphs.drop 1
  let (tag, rest) ←
    if next after = '<' then do
      let (suffix, rest) ← tagSuffix (after.drop 1)
      if next rest = '>' then pure (WrittenTag.mk none suffix, rest.drop 1)
      else .error .malformed
    else if isGap (next after) then
      pure (WrittenTag.mk none ['!'], after)
    else if hasLongHandle after then do
      let (handle, rest) ← tagHandle glyphs
      let (suffix, rest) ← tagSuffix rest
      pure (WrittenTag.mk (some handle) suffix, rest)
    else do
      let (suffix, rest) ← tagSuffix after
      pure (WrittenTag.mk (some ['!']) suffix, rest)
  if isSpaceBreakOrEnd (next rest) then return (tag, rest)
  else .error .malformed

/-! ## Directives -/

def dropComment (glyphs : List Glyph) : List Glyph :=
  if next glyphs = '#' then (rowOf (fun character => !isBreakOrEnd character) glyphs).2
  else glyphs

/-- The rest of a line on which nothing but a comment may follow, with its line break. -/
def endOfLine (glyphs : List Glyph) : Except Fault (List Glyph) :=
  let rest := dropComment (dropSpaces glyphs)
  if isBreak (next rest) then .ok (rest.drop 1)
  else if next rest = endChar then .ok rest
  else .error .malformed

/-- Digits, as a number. -/
def directiveNumber (glyphs : List Glyph) : Except Fault (Nat × List Glyph) :=
  let (digits, rest) := rowOf Char.isDigit glyphs
  if digits.isEmpty then .error .malformed
  else .ok (decimalValue digits, rest)

def versionDirective (glyphs : List Glyph) : Except Fault (Directive × List Glyph) := do
  let (major, rest) ← directiveNumber (dropSpaces glyphs)
  if next rest ≠ '.' then
    .error .malformed
  else
    let (_, rest) ← directiveNumber (rest.drop 1)
    if isSpaceBreakOrEnd (next rest) then return (.version major, rest)
    else .error .malformed

def tagDirective (glyphs : List Glyph) : Except Fault (Directive × List Glyph) := do
  let (handle, rest) ← tagHandle (dropSpaces glyphs)
  if next rest ≠ ' ' then
    .error .malformed
  else
    let (expansion, rest) ← tagSuffix (dropSpaces rest)
    if isSpaceBreakOrEnd (next rest) then return (.tagHandle handle expansion, rest)
    else .error .malformed

/-- The directive that begins here with a percent sign. -/
def directive (glyphs : List Glyph) : Except Fault (Directive × List Glyph) := do
  let (name, rest) := rowOf isNameChar (glyphs.drop 1)
  if name.isEmpty || !isSpaceBreakOrEnd (next rest) then
    .error .malformed
  else
    let (directive, rest) ←
      if name = "YAML".toList then versionDirective rest
      else if name = "TAG".toList then tagDirective rest
      else pure (Directive.other, (rowOf (fun character => !isBreakOrEnd character) rest).2)
    return (directive, ← endOfLine rest)

end ThreatModel.Yaml
