import ThreatModel.Text.Numeral
import ThreatModel.Text.Quoted
import ThreatModel.Yaml.Timestamp

/-!
Contract: what can be wrong with a YAML text.

Owns:
- the faults: a text that is no document, and scalars whose text does not fit
  their type;
- the wording of the latter.

Does not own: how a malformed text is explained; it is not.
-/

namespace ThreatModel.Yaml

open ThreatModel.Text

inductive Fault where
  /-- The text is not one well-formed document, or has a type that has no values. -/
  | malformed
  /-- An escape names a number beyond the last code point. -/
  | noCodePoint
  | emptyNumber
  | integer (base : Nat) (given : String)
  | tooManyDigits (count : Nat)
  | real (given : String)
  | boolean (given : String)
  | noTimestamp
  | timestamp (fault : Timestamp.Fault)
deriving DecidableEq, Repr

def Fault.message : Fault → String
  | .malformed => "malformed YAML"
  | .noCodePoint => "chr() arg not in range(0x110000)"
  | .emptyNumber => "string index out of range"
  | .integer base given =>
      s!"invalid literal for int() with base {base}: " ++ quoted given
  | .tooManyDigits count => Text.tooManyDigits count
  | .real given => "could not convert string to float: " ++ quoted given
  | .boolean given => quoted given
  | .noTimestamp => "\x27NoneType\x27 object has no attribute \x27groupdict\x27"
  | .timestamp fault => fault.message

end ThreatModel.Yaml
