import ThreatModel.Numeric.Binary64
import ThreatModel.Yaml.Timestamp

/-!
Contract: the values that YAML texts stand for.

Owns: the values, and the value that a mapping has under a key.

Does not own: how they are written.
-/

namespace ThreatModel.Yaml

open ThreatModel.Numeric

inductive Value where
  | null
  | boolean (value : Bool)
  | integer (value : Int)
  | real (value : Binary64)
  | text (value : String)
  /-- A text with code points that are no characters. -/
  | garbled
  | octets (value : List UInt8)
  | timestamp (value : Timestamp)
  | sequence (items : List Value)
  /-- Keys may repeat, and the last one counts. -/
  | mapping (pairs : List (Value × Value))
deriving Repr, Inhabited

namespace Value

def isText : Value → Bool
  | .text _ => true
  | .garbled => true
  | _ => false

/-- The value is the key `name`. -/
def isName
    (name : String) :
    Value → Bool
  | .text value => value = name
  | _ => false

end Value

/-- The value of the last pair whose key is `name`. -/
def field?
    (pairs : List (Value × Value))
    (name : String) :
    Option Value :=
  (pairs.reverse.find? fun pair => pair.1.isName name).map Prod.snd

end ThreatModel.Yaml
