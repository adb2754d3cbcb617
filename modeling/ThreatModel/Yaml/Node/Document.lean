import ThreatModel.Text.Split
import ThreatModel.Yaml.Node

/-!
Contract: the document that a row of tokens stands for.

Owns:
- the nodes that tokens make up, with what may be left out;
- anchors, each of which names one node, and aliases;
- handles and the tags that they stand for;
- the one document of a text.

Does not own: tokens, or values.
-/

namespace ThreatModel.Yaml

open ThreatModel.Text

/-- Tokens that are still to be read, and the nodes that have names. -/
structure Remaining where
  tokens : List Token
  anchors : List (List Char × Node) := []

/-- A part of a document that is read from the remaining tokens. -/
abbrev Reading (α : Type) := StateT Remaining (Except Fault) α

namespace Reading

def malformed {α : Type} : Reading α :=
  fun _ => .error .malformed

/-- The next token. -/
def peek : Reading (Option Token) :=
  fun remaining => .ok (remaining.tokens.head?, remaining)

def drop : Reading Unit :=
  fun remaining => .ok ((), { remaining with tokens := remaining.tokens.drop 1 })

/-- The next token is one of these, or there is none. -/
def endsAt (tokens : List Token) : Reading Bool := do
  match ← peek with
  | none => return true
  | some token => return token ∈ tokens

/-- The next token is this one, which is dropped. -/
def dropIf (token : Token) : Reading Bool := do
  if (← peek) = some token then
    drop
    return true
  else
    return false

/-! ## Properties of nodes -/

/-- The name and the tag that a node is given. -/
structure Properties where
  anchor : Option (List Char) := none
  tag : Option (List Char) := none

/-- The handles that stand for the beginnings of tags. -/
abbrev Handles := List (List Char × List Char)

def fullTag
    (handles : Handles)
    (tag : WrittenTag) :
    Reading (List Char) :=
  match tag.handle with
  | none => pure tag.suffix
  | some handle =>
      match handles.lookup handle with
      | some expansion => pure (expansion ++ tag.suffix)
      | none => malformed

def anchorIf : Reading (Option (List Char)) := do
  match ← peek with
  | some (.anchor name) =>
      drop
      return some name
  | _ => return none

def tagIf (handles : Handles) : Reading (Option (List Char)) := do
  match ← peek with
  | some (.tag tag) =>
      drop
      return some (← fullTag handles tag)
  | _ => return none

/-- A name and a tag come in either order. -/
def properties (handles : Handles) : Reading Properties := do
  match ← anchorIf with
  | some anchor => return ⟨some anchor, ← tagIf handles⟩
  | none => do
      let tag ← tagIf handles
      if tag.isSome then return ⟨← anchorIf, tag⟩
      else return ⟨none, none⟩

def Properties.tagOr
    (properties : Properties)
    (usual : Tag) :
    Tag :=
  match properties.tag with
  | none => usual
  | some name => if name = ['!'] then usual else .ofName name

/-- A scalar is plain where it is written so, and also where its tag says no more than that it is
a scalar. A newline at the end does not matter. -/
def Properties.scalar
    (properties : Properties)
    (plain : Bool)
    (text : ScalarText) :
    Node :=
  let found : Tag :=
    match text with
    | some characters =>
        if plain || properties.tag.isSome then .ofPlain (dropFinalNewline characters) else .text
    | none => .text
  .scalar (properties.tagOr found) text

/-- Gives a name to a node; no name is given twice. -/
def name
    (anchor : Option (List Char))
    (node : Node) :
    Reading Unit :=
  fun remaining =>
    match anchor with
    | none => .ok ((), remaining)
    | some name =>
        match remaining.anchors.lookup name with
        | some _ => .error .malformed
        | none => .ok ((), { remaining with anchors := (name, node) :: remaining.anchors })

/-- Gives a name that is known already to the node that it stands for in the end. -/
def rename
    (anchor : Option (List Char))
    (node : Node) :
    Reading Node :=
  fun remaining =>
    match anchor with
    | none => .ok (node, remaining)
    | some name => .ok (node, { remaining with anchors := (name, node) :: remaining.anchors })

/-- Reads a collection. Within it, its own name stands for an empty collection. -/
def collection
    (anchor : Option (List Char))
    (hollow : Node)
    (read : Reading Node) :
    Reading Node := do
  name anchor hollow
  rename anchor (← read)

/-- The node that an alias stands for. -/
def named (anchor : List Char) : Reading Node :=
  fun remaining =>
    match remaining.anchors.lookup anchor with
    | some node => .ok (node, remaining)
    | none => .error .malformed

/-! ## Nodes -/

/-- Where a node stands. -/
structure Context where
  /-- Block collections may stand here. -/
  block : Bool
  /-- A row of entries may stand here without an indentation of its own. -/
  bareEntries : Bool

def Context.inBlock : Context := ⟨true, false⟩

def Context.inMapping : Context := ⟨true, true⟩

def Context.inFlow : Context := ⟨false, false⟩

mutual

/-- A node. The number of remaining tokens bounds the depth of all readings below it. -/
def node
    (handles : Handles)
    (depth : Nat)
    (context : Context) :
    Reading Node :=
  match depth with
  | 0 => malformed
  | depth + 1 => do
      match ← peek with
      | some (.reference anchor) =>
          drop
          named anchor
      | _ => do
          let given ← properties handles
          let sequenceTag := given.tagOr .sequence
          let mappingTag := given.tagOr .mapping
          let readSequence := collection given.anchor (.sequence sequenceTag [])
          let readMapping := collection given.anchor (.mapping mappingTag [] true)
          match ← peek with
          | some (.scalar plain text) =>
              drop
              let scalar := given.scalar plain text
              name given.anchor scalar
              return scalar
          | some .flowSequence =>
              drop
              readSequence (return .sequence sequenceTag (← flowItems handles depth true))
          | some .flowMapping =>
              drop
              readMapping (return .ofPairs mappingTag (← flowPairs handles depth true))
          | some .blockSequence =>
              if context.block then
                drop
                readSequence (return .sequence sequenceTag (← blockItems handles depth))
              else
                emptyNode given
          | some .blockMapping =>
              if context.block then
                drop
                readMapping (return .ofPairs mappingTag (← blockPairs handles depth))
              else
                emptyNode given
          | some .blockEntry =>
              if context.bareEntries then
                readSequence (return .sequence sequenceTag (← bareItems handles depth))
              else
                emptyNode given
          | _ => emptyNode given

/-- Nothing follows a name or a tag; without either there is no node. -/
def emptyNode (given : Properties) : Reading Node := do
  if given.anchor.isSome || given.tag.isSome then
    let scalar := given.scalar true (some [])
    name given.anchor scalar
    return scalar
  else
    malformed

/-- A node, or an empty one before one of these tokens. -/
def nodeUnless
    (handles : Handles)
    (depth : Nat)
    (context : Context)
    (ends : List Token) :
    Reading Node :=
  match depth with
  | 0 => malformed
  | depth + 1 => do
      if ← endsAt ends then return .empty
      else node handles depth context

/-- The entries of a block sequence, up to its end. -/
def blockItems
    (handles : Handles)
    (depth : Nat) :
    Reading (List Node) :=
  match depth with
  | 0 => malformed
  | depth + 1 => do
      if ← dropIf .blockEntry then
        let item ← nodeUnless handles depth .inBlock [.blockEntry, .blockEnd]
        return item :: (← blockItems handles depth)
      else if ← dropIf .blockEnd then
        return []
      else
        malformed

/-- The entries of a block sequence without an end of its own. -/
def bareItems
    (handles : Handles)
    (depth : Nat) :
    Reading (List Node) :=
  match depth with
  | 0 => malformed
  | depth + 1 => do
      if ← dropIf .blockEntry then
        let item ← nodeUnless handles depth .inBlock [.blockEntry, .key, .value, .blockEnd]
        return item :: (← bareItems handles depth)
      else
        return []

/-- The pairs of a block mapping, up to its end. -/
def blockPairs
    (handles : Handles)
    (depth : Nat) :
    Reading (List (Node × Node)) :=
  match depth with
  | 0 => malformed
  | depth + 1 => do
      if ← dropIf .key then
        let key ← nodeUnless handles depth .inMapping [.key, .value, .blockEnd]
        let value ←
          if ← dropIf .value then
            nodeUnless handles depth .inMapping [.key, .value, .blockEnd]
          else
            pure .empty
        return (key, value) :: (← blockPairs handles depth)
      else if ← dropIf .blockEnd then
        return []
      else
        malformed

/-- The pair that a key and a value sign make within a flow collection, after the key sign. -/
def flowPair
    (handles : Handles)
    (depth : Nat)
    (collectionEnd : Token) :
    Reading (Node × Node) :=
  match depth with
  | 0 => malformed
  | depth + 1 => do
      let key ← nodeUnless handles depth .inFlow [.value, .flowEntry, collectionEnd]
      if ← dropIf .value then
        return (key, ← nodeUnless handles depth .inFlow [.flowEntry, collectionEnd])
      else
        return (key, .empty)

/-- The items of a flow sequence, up to its end. A pair is a mapping of its own. -/
def flowItems
    (handles : Handles)
    (depth : Nat)
    (first : Bool) :
    Reading (List Node) :=
  match depth with
  | 0 => malformed
  | depth + 1 => do
      if ← dropIf .flowSequenceEnd then
        return []
      else
        let separated ← if first then pure true else dropIf .flowEntry
        if !separated then
          malformed
        else if ← dropIf .key then
          let pair ← flowPair handles depth .flowSequenceEnd
          return .ofPairs .mapping [pair] :: (← flowItems handles depth false)
        else if ← dropIf .flowSequenceEnd then
          return []
        else
          let item ← node handles depth .inFlow
          return item :: (← flowItems handles depth false)

/-- The pairs of a flow mapping, up to its end. A node without a key sign is a key without a
value. -/
def flowPairs
    (handles : Handles)
    (depth : Nat)
    (first : Bool) :
    Reading (List (Node × Node)) :=
  match depth with
  | 0 => malformed
  | depth + 1 => do
      if ← dropIf .flowMappingEnd then
        return []
      else
        let separated ← if first then pure true else dropIf .flowEntry
        if !separated then
          malformed
        else if ← dropIf .key then
          let pair ← flowPair handles depth .flowMappingEnd
          return pair :: (← flowPairs handles depth false)
        else if ← dropIf .flowMappingEnd then
          return []
        else
          let key ← node handles depth .inFlow
          return (key, .empty) :: (← flowPairs handles depth false)

end

/-! ## Documents -/

/-- The handles that are known without a directive. -/
def usualHandles : Handles :=
  [(['!'], ['!']), (['!', '!'], Tag.root)]

/-- The directives from here on: one version at most, which has to be a first one, and one
directive at most for each handle. -/
def directives
    (versioned : Bool)
    (handles : Handles) :
    List Token → Except Fault (Handles × List Token)
  | .directive (.version major) :: rest =>
      if versioned ∨ major ≠ 1 then .error .malformed
      else directives true handles rest
  | .directive (.tagHandle handle expansion) :: rest =>
      match handles.lookup handle with
      | some _ => .error .malformed
      | none => directives versioned ((handle, expansion) :: handles) rest
  | .directive .other :: rest => directives versioned handles rest
  | rest => .ok (handles ++ usualHandles, rest)

/-- After the document there may be signs of its end, and nothing else. -/
def endsDocument (tokens : List Token) : Bool :=
  tokens.all (· = .documentEnd)

/-- The node that makes up the whole document. -/
def rootNode
    (handles : Handles)
    (tokens : List Token) :
    Except Fault Node := do
  let (root, remaining) ← (node handles (3 * tokens.length + 3) .inBlock).run { tokens := tokens }
  if endsDocument remaining.tokens then return root
  else .error .malformed

/-- The one document of a text. Directives have to be followed by the sign of its beginning. -/
def document (tokens : List Token) : Except Fault Node :=
  match tokens with
  | [] => .ok .empty
  | .directive directive :: rest => begun (.directive directive :: rest)
  | .documentStart :: rest => begun (.documentStart :: rest)
  | tokens => rootNode usualHandles tokens
where
  begun (tokens : List Token) : Except Fault Node := do
    match ← directives false [] tokens with
    | (handles, .documentStart :: rest) =>
        match rest with
        | .directive _ :: _ => .error .malformed
        | .documentStart :: _ => .error .malformed
        | _ => if endsDocument rest then return .empty else rootNode handles rest
    | _ => .error .malformed

end Reading

/-- The document of a text, as one node; a text without a document stands for an empty one. -/
def Node.ofTokens (tokens : List Token) : Except Fault Node :=
  Reading.document tokens

end ThreatModel.Yaml
