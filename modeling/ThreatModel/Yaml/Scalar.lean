import ThreatModel.Numeric.Decimal
import ThreatModel.Text.Base64
import ThreatModel.Text.Lowercase
import ThreatModel.Text.Split
import ThreatModel.Yaml.Node
import ThreatModel.Yaml.Value

/-!
Contract: the values of scalars.

Owns:
- the value that the text of a scalar has in a type, or the fault that it is;
- numbers with underscores between digits, in several bases, and in base sixty.

Does not own: which type a scalar has.
-/

namespace ThreatModel.Yaml

open ThreatModel.Numeric
open ThreatModel.Text

namespace Scalar

def dropUnderscores (text : List Char) : List Char :=
  text.filter (· ≠ '_')

/-- Takes the sign off a number, of which something has to be there. -/
def signed (text : List Char) : Except Fault (Bool × List Char) :=
  if text.isEmpty then .error .emptyNumber
  else .ok (signOf text)

/-! ## Whole numbers -/

def wholeInBase
    (base : Nat)
    (text : List Char) :
    Except Fault Int :=
  match integerInBase base text with
  | .ok value => .ok value
  | .error .shape => .error (.integer base (String.ofList text))
  | .error (.tooManyDigits count) => .error (.tooManyDigits count)

/-- A number whose parts between colons are worth sixty times the next one. -/
def wholeInSixties (text : List Char) : Except Fault Int := do
  let parts ← (splitWhere (· = ':') text).mapM (wholeInBase 10)
  return parts.foldl (fun value part => 60 * value + part) 0

def magnitude (text : List Char) : Except Fault Int :=
  match text with
  | [] => .error .emptyNumber
  | ['0'] => .ok 0
  | '0' :: 'b' :: rest => wholeInBase 2 rest
  | '0' :: 'x' :: rest => wholeInBase 16 rest
  | '0' :: rest => wholeInBase 8 ('0' :: rest)
  | first :: rest =>
      if ':' ∈ first :: rest then wholeInSixties (first :: rest)
      else wholeInBase 10 (first :: rest)

def integer (text : List Char) : Except Fault Int := do
  let (negative, rest) ← signed (dropUnderscores text)
  let value ← magnitude rest
  return if negative then -value else value

/-! ## Real numbers -/

/-- The names of values that no digits write. -/
def namedReal? (word : List Char) : Option Binary64 :=
  let (negative, name) := signOf word
  if name = "inf".toList ∨ name = "infinity".toList then some (.infinite negative)
  else if name = "nan".toList then some .notANumber
  else none

def plainReal (text : List Char) : Except Fault Binary64 :=
  let word := trim text
  match namedReal? word, decimalOf? word with
  | some value, _ => .ok value
  | none, some decimal => .ok (.ofDecimal decimal.negative decimal.digits decimal.exponent)
  | none, none => .error (.real (String.ofList text))

/-- The parts between colons, last one first, are worth sixty times the one before. The sum is
rounded at each step. -/
def sumInSixties
    (worth : Nat) :
    List Binary64 → Binary64 → Binary64
  | [], sum => sum
  | part :: rest, sum => sumInSixties (60 * worth) rest (sum.add (part.scale worth))

def realInSixties (text : List Char) : Except Fault Binary64 := do
  let parts ← (splitWhere (· = ':') text).mapM plainReal
  return sumInSixties 1 parts.reverse (.zero false)

def real (text : List Char) : Except Fault Binary64 := do
  let (negative, rest) ← signed (lowercase (dropUnderscores text))
  let value ←
    if rest = ".inf".toList then pure (Binary64.infinite false)
    else if rest = ".nan".toList then pure Binary64.notANumber
    else if ':' ∈ rest then realInSixties rest
    else plainReal rest
  return if negative then value.negate else value

/-! ## Other scalars -/

def booleanValues : List (String × Bool) :=
  [("yes", true), ("no", false), ("true", true), ("false", false), ("on", true), ("off", false)]

def boolean (text : List Char) : Except Fault Bool :=
  let word := String.ofList (lowercase text)
  match booleanValues.lookup word with
  | some value => .ok value
  | none => .error (.boolean word)

def timestamp (text : List Char) : Except Fault Timestamp :=
  match Timestamp.ofChars? (dropFinalNewline text) with
  | none => .error .noTimestamp
  | some stamp =>
      match stamp.fault? with
      | some fault => .error (.timestamp fault)
      | none => .ok stamp

def octets (text : List Char) : Except Fault (List UInt8) :=
  if text.all fun character => decide (character.toNat < 0x80) then
    match Base64.decode text with
    | some octets => .ok octets
    | none => .error .malformed
  else
    .error .malformed

/-- The value of a scalar. The types of collections, and those that only keys have, have no scalar
values. -/
def value
    (tag : Tag)
    (text : ScalarText) :
    Except Fault Value :=
  match tag, text with
  | .null, _ => .ok .null
  | .text, none => .ok .garbled
  | .text, some text => .ok (.text (String.ofList text))
  | .boolean, some text => (boolean text).map .boolean
  | .integer, some text => (integer text).map .integer
  | .real, some text => (real text).map .real
  | .octets, some text => (octets text).map .octets
  | .timestamp, some text => (timestamp text).map .timestamp
  | _, _ => .error .malformed

end Scalar

end ThreatModel.Yaml
