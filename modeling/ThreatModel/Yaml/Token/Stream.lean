import ThreatModel.Yaml.Token.BlockScalar
import ThreatModel.Yaml.Token.PlainScalar

/-!
Contract: the tokens of a YAML text, in order.

Owns:
- the indentations that are open, and the tokens that their opening and closing
  stands for;
- the places where a key may have begun: only a value sign behind it makes it
  one, so the tokens of a key are inserted afterwards;
- which token begins at a character.

Does not own: which rows of tokens are documents.
-/

namespace ThreatModel.Yaml

/-- A key may be on one line only, and have this many characters at most. -/
def keyLimit : Nat := 1024

/-- A place at which a key may have begun. -/
structure PossibleKey where
  /-- The number of tokens before it. -/
  position : Nat
  start : Glyph
  /-- Nothing but a key can begin here. -/
  required : Bool
deriving DecidableEq, Repr

/-- A text that is read up to `rest`. -/
structure TokenStream where
  rest : List Glyph
  /-- The tokens so far, last first, and their number. -/
  tokens : List Token := []
  count : Nat := 0
  /-- The columns of the open block collections, innermost first. -/
  indents : List Nat := []
  /-- The places where a key may have begun, one in each open flow collection, innermost first,
  and last one outside of all. -/
  keys : List (Option PossibleKey) := [none]
  /-- A key may begin at the next token. -/
  allowsKey : Bool := true

namespace TokenStream

def inFlow (stream : TokenStream) : Bool :=
  decide (1 < stream.keys.length)

def here (stream : TokenStream) : Glyph :=
  stream.rest.headD ⟨endChar, 0, 0, 0⟩

/-- The least column of what belongs to the open block collection, but is not a part of it. -/
def leastColumn (stream : TokenStream) : Nat :=
  match stream.indents with
  | [] => 0
  | indent :: _ => indent + 1

def emit
    (stream : TokenStream)
    (token : Token) :
    TokenStream :=
  { stream with tokens := token :: stream.tokens, count := stream.count + 1 }

/-- Puts a token before all but the first `position` ones. -/
def insertAt
    (stream : TokenStream)
    (position : Nat)
    (token : Token) :
    TokenStream :=
  { stream with
    tokens := stream.tokens.insertIdx (stream.count - position) token
    count := stream.count + 1 }

def skip
    (stream : TokenStream)
    (count : Nat) :
    TokenStream :=
  { stream with rest := stream.rest.drop count }

def allowKey
    (stream : TokenStream)
    (allowed : Bool) :
    TokenStream :=
  { stream with allowsKey := allowed }

/-! ## Indentation -/

/-- Closes the block collections whose columns `closes` holds of. In flow context indentation
means nothing. -/
def closeBlocks
    (closes : Nat → Bool)
    (stream : TokenStream) :
    TokenStream :=
  if stream.inFlow then stream
  else
    let closed := (stream.indents.takeWhile closes).length
    { stream with
      indents := stream.indents.drop closed
      tokens := List.replicate closed .blockEnd ++ stream.tokens
      count := stream.count + closed }

/-- Opens a block collection at a column that is further in than the open one, with its token
before all but the first `position` ones. -/
def openBlock
    (stream : TokenStream)
    (column position : Nat)
    (token : Token) :
    TokenStream :=
  if stream.leastColumn ≤ column then
    { stream.insertAt position token with indents := column :: stream.indents }
  else
    stream

/-! ## Possible keys -/

/-- Gives up a possible key. -/
def giveUp : Option PossibleKey → Except Fault Unit
  | some ⟨_, _, true⟩ => .error .malformed
  | _ => .ok ()

/-- Gives up the possible key of the innermost collection. -/
def dropKey (stream : TokenStream) : Except Fault TokenStream := do
  giveUp (stream.keys.head?.getD none)
  return { stream with keys := none :: stream.keys.drop 1 }

/-- Gives up the keys that are no longer on the same line, or too long. -/
def dropStaleKeys (stream : TokenStream) : Except Fault TokenStream := do
  let keys ← stream.keys.mapM fun key =>
    match key with
    | some possible =>
        if possible.start.line ≠ stream.here.line ∨
            keyLimit < stream.here.index - possible.start.index then do
          giveUp key
          pure none
        else
          pure key
    | none => pure none
  return { stream with keys := keys }

/-- Takes note of the next token as one with which a key may begin. -/
def noteKey (stream : TokenStream) : Except Fault TokenStream := do
  if stream.allowsKey then
    let stream ← stream.dropKey
    let required := !stream.inFlow && stream.indents.head? == some stream.here.column
    return { stream with keys := some ⟨stream.count, stream.here, required⟩ :: stream.keys.drop 1 }
  else
    return stream

/-! ## Tokens -/

/-- A token of `count` characters before which a key may have begun. -/
def plainSign
    (stream : TokenStream)
    (token : Token)
    (count : Nat) :
    Except Fault TokenStream := do
  return ((← stream.dropKey).emit token).skip count

/-- Three signs that begin or end a document close all that is open in block context. -/
def documentSign
    (stream : TokenStream)
    (token : Token) :
    Except Fault TokenStream := do
  return (← (stream.closeBlocks fun _ => true).plainSign token 3).allowKey false

def directiveLine (stream : TokenStream) : Except Fault TokenStream := do
  let closed ← (stream.closeBlocks fun _ => true).dropKey
  let (directive, rest) ← directive stream.rest
  return { (closed.emit (.directive directive)).allowKey false with rest := rest }

def flowStart
    (stream : TokenStream)
    (token : Token) :
    Except Fault TokenStream := do
  let noted ← stream.noteKey
  return { (noted.emit token).skip 1 with keys := none :: noted.keys, allowsKey := true }

def flowEnd
    (stream : TokenStream)
    (token : Token) :
    Except Fault TokenStream := do
  if stream.inFlow then
    let ended ← stream.plainSign token 1
    return { ended with keys := ended.keys.drop 1, allowsKey := false }
  else
    .error .malformed

/-- A sign that begins an entry, a key or a value opens a block collection where it stands further
in than the open one. In flow context no collection is opened, and its place is not checked. -/
def blockSign
    (stream : TokenStream)
    (collection token : Token)
    (allowsKeyAfter : Bool) :
    Except Fault TokenStream := do
  if stream.inFlow then
    return (← stream.plainSign token 1).allowKey allowsKeyAfter
  else if stream.allowsKey then
    let opened := stream.openBlock stream.here.column stream.count collection
    return (← opened.plainSign token 1).allowKey allowsKeyAfter
  else
    .error .malformed

/-- A value sign makes a key of the tokens since the place where one may have begun. -/
def valueSign (stream : TokenStream) : Except Fault TokenStream :=
  match stream.keys with
  | some key :: outer =>
      let stream := { stream with keys := none :: outer }.insertAt key.position .key
      let opened :=
        if stream.inFlow then stream
        else stream.openBlock key.start.column key.position .blockMapping
      .ok (((opened.emit .value).skip 1).allowKey false)
  | _ => stream.blockSign .blockMapping .value !stream.inFlow

/-- A token with which a key may begin, read by `read`. -/
def keyable
    (stream : TokenStream)
    (read : List Glyph → Except Fault (Token × List Glyph)) :
    Except Fault TokenStream := do
  let noted ← stream.noteKey
  let (token, rest) ← read stream.rest
  return { (noted.emit token).allowKey false with rest := rest }

def plain (stream : TokenStream) : Except Fault TokenStream := do
  let noted ← stream.noteKey
  let scalar := plainScalar stream.inFlow stream.leastColumn stream.rest
  let emitted := (noted.emit (.scalar true (some scalar.text))).allowKey scalar.endsLine
  return { emitted with rest := scalar.rest }

def block (stream : TokenStream) : Except Fault TokenStream := do
  let dropped ← stream.dropKey
  let (text, rest) ← blockScalar (max 1 stream.leastColumn) stream.rest
  return { (dropped.emit (.scalar false (some text))).allowKey true with rest := rest }

/-- The token that begins at the next character, which is not the end. -/
def readToken (stream : TokenStream) : Except Fault TokenStream :=
  let character := next stream.rest
  let lineStart := decide (stream.here.column = 0)
  let gapAfter := isGap (nextAfter 1 stream.rest)
  if character = '%' && lineStart then stream.directiveLine
  else if lineStart && marksDocument '-' stream.rest then stream.documentSign .documentStart
  else if lineStart && marksDocument '.' stream.rest then stream.documentSign .documentEnd
  else if character = '[' then stream.flowStart .flowSequence
  else if character = '\x7b' then stream.flowStart .flowMapping
  else if character = ']' then stream.flowEnd .flowSequenceEnd
  else if character = '\x7d' then stream.flowEnd .flowMappingEnd
  else if character = ',' then do
    return (← stream.plainSign .flowEntry 1).allowKey true
  else if character = '-' && gapAfter then
    stream.blockSign .blockSequence .blockEntry true
  else if character = '?' && (stream.inFlow || gapAfter) then
    stream.blockSign .blockMapping .key !stream.inFlow
  else if character = ':' && (stream.inFlow || gapAfter) then
    stream.valueSign
  else if character = '*' then
    stream.keyable fun glyphs => do
      let (name, rest) ← anchorName (glyphs.drop 1)
      return (.reference name, rest)
  else if character = '&' then
    stream.keyable fun glyphs => do
      let (name, rest) ← anchorName (glyphs.drop 1)
      return (.anchor name, rest)
  else if character = '!' then
    stream.keyable fun glyphs => do
      let (tag, rest) ← writtenTag glyphs
      return (.tag tag, rest)
  else if (character = '|' || character = '>') && !stream.inFlow then
    stream.block
  else if character = '\x27' || character = '\x22' then
    stream.keyable fun glyphs => do
      let (text, rest) ← quotedScalar glyphs
      return (.scalar false text, rest)
  else if startsPlain stream.inFlow stream.rest then
    stream.plain
  else
    .error .malformed

/-! ## Texts -/

/-- Skips spaces, comments and line breaks. After a break outside of flow collections a key may
begin. -/
def skipGap (stream : TokenStream) : TokenStream :=
  let rest := dropComment (dropSpaces stream.rest)
  if isBreak (next rest) ∧ (rest.drop 1).length < stream.rest.length then
    { stream with
      rest := rest.drop 1
      allowsKey := stream.allowsKey || !stream.inFlow }.skipGap
  else
    { stream with rest := rest }
termination_by stream.rest.length
decreasing_by
  rename_i breaks
  exact breaks.2

/-- Reads all tokens; each takes a character at least. -/
def readAll (stream : TokenStream) : Except Fault (List Token) := do
  let arrived ← stream.skipGap.dropStaleKeys
  let ready := arrived.closeBlocks fun indent => decide (arrived.here.column < indent)
  if next ready.rest = endChar then
    let ended ← (ready.closeBlocks fun _ => true).dropKey
    return ended.tokens.reverse
  else
    let read ← ready.readToken
    if read.rest.length < stream.rest.length then read.readAll
    else .error .malformed
termination_by stream.rest.length

end TokenStream

/-- The tokens of a text. A byte order mark at its beginning is skipped. -/
def Token.ofChars (text : List Char) : Except Fault (List Token) :=
  let glyphs := Glyph.ofChars text
  let start := if next glyphs = byteOrderMark then glyphs.drop 1 else glyphs
  TokenStream.readAll { rest := start }

end ThreatModel.Yaml
