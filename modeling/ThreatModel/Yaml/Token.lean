import ThreatModel.Yaml.Fault

/-!
Contract: the tokens of a YAML text.

Owns: the tokens, and the texts of scalars, which may have code points that are no
characters.

Does not own: how tokens are told apart, or which rows of them are documents.
-/

namespace ThreatModel.Yaml

/-- The text of a scalar; `none` stands for one with code points that are no characters, as an
escape may name them. -/
abbrev ScalarText := Option (List Char)

inductive Directive where
  | version (major : Nat)
  /-- Tags that begin with `handle` begin with `expansion` instead. -/
  | tagHandle (handle expansion : List Char)
  | other
deriving DecidableEq, Repr

/-- A tag as it is written. Without a handle it stands for itself. -/
structure WrittenTag where
  handle : Option (List Char)
  suffix : List Char
deriving DecidableEq, Repr

inductive Token where
  | directive (directive : Directive)
  | documentStart
  | documentEnd
  | blockSequence
  | blockMapping
  | blockEnd
  | flowSequence
  | flowSequenceEnd
  | flowMapping
  | flowMappingEnd
  | blockEntry
  | flowEntry
  | key
  | value
  | anchor (name : List Char)
  /-- The alias of an anchor. -/
  | reference (name : List Char)
  | tag (tag : WrittenTag)
  /-- A plain scalar is one without quotes, and not a block. -/
  | scalar (plain : Bool) (text : ScalarText)
deriving DecidableEq, Repr

end ThreatModel.Yaml
