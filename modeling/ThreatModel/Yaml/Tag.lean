import ThreatModel.Text.Numeral
import ThreatModel.Yaml.Timestamp

/-!
Contract: the types of nodes.

Owns:
- the types with their names;
- the type of a plain scalar, which its text decides.

Does not own: the values of the types.
-/

namespace ThreatModel.Yaml

inductive Tag where
  | null
  | boolean
  | integer
  | real
  | octets
  | timestamp
  | text
  | sequence
  | mapping
  | set
  /-- Two names for rows of single pairs. -/
  | orderedMapping
  | pairs
  /-- The key under which other mappings are merged in. -/
  | merge
  /-- The key under which a mapping has the scalar that it may stand for. -/
  | default
  | unknown (name : List Char)
deriving DecidableEq, Repr

namespace Tag

/-- The names of the common types begin with this. -/
def root : List Char :=
  "tag:yaml.org,2002:".toList

def commonNames : List (String × Tag) :=
  [("null", .null), ("bool", .boolean), ("int", .integer), ("float", .real), ("binary", .octets),
    ("timestamp", .timestamp), ("str", .text), ("seq", .sequence), ("map", .mapping),
    ("set", .set), ("omap", .orderedMapping), ("pairs", .pairs), ("merge", .merge),
    ("value", .default)]

def ofName (name : List Char) : Tag :=
  if root.isPrefixOf name then
    (commonNames.lookup (String.ofList (name.drop root.length))).getD (.unknown name)
  else
    .unknown name

/-! ## Plain scalars -/

def booleanNames : List String :=
  ["yes", "Yes", "YES", "no", "No", "NO", "true", "True", "TRUE", "false", "False", "FALSE", "on",
    "On", "ON", "off", "Off", "OFF"]

def nullNames : List String :=
  ["~", "null", "Null", "NULL", ""]

def infinityNames : List String :=
  [".inf", ".Inf", ".INF"]

def notANumberNames : List String :=
  [".nan", ".NaN", ".NAN"]

def dropSign (word : List Char) : List Char :=
  (Text.signOf word).2

def isDigitOrUnderscore (character : Char) : Bool :=
  character.isDigit || character = '_'

/-- Nothing, or an exponent with its sign. -/
def isExponent : List Char → Bool
  | [] => true
  | mark :: sign :: digits =>
      (mark = 'e' || mark = 'E') && (sign = '-' || sign = '+') && !digits.isEmpty &&
        digits.all Char.isDigit
  | _ => false

/-- The parts after colons, each below sixty, and what follows them; `none` where a part is not
a number below sixty. -/
def sixtieths? (text : List Char) : Option (Nat × List Char) :=
  match text with
  | ':' :: rest =>
      let digits := rest.takeWhile Char.isDigit
      let fits :=
        match digits with
        | [_] => true
        | [tens, _] => decide (tens ≤ '5')
        | _ => false
      if fits then
        (sixtieths? (rest.dropWhile Char.isDigit)).map fun (count, after) => (count + 1, after)
      else
        none
  | _ => some (0, text)
termination_by text.length
decreasing_by
  have := (List.dropWhile_sublist Char.isDigit (l := rest)).length_le
  simp
  omega

/-- A point is needed in the notation of a real number. -/
def isReal (text : List Char) : Bool :=
  let unsigned := dropSign text
  let afterDigits := unsigned.dropWhile isDigitOrUnderscore
  let startsWithDigit := (unsigned.head?.map Char.isDigit).getD false
  let pointed :=
    match startsWithDigit, afterDigits with
    | true, '.' :: rest => isExponent (rest.dropWhile isDigitOrUnderscore)
    | true, rest =>
        match sixtieths? rest with
        | some (count, '.' :: places) => decide (0 < count) && places.all isDigitOrUnderscore
        | _ => false
    | false, _ => false
  let pointFirst :=
    match text with
    | '.' :: digit :: rest =>
        digit.isDigit && isExponent (rest.dropWhile isDigitOrUnderscore)
    | _ => false
  pointed || pointFirst || String.ofList unsigned ∈ infinityNames ||
    String.ofList text ∈ notANumberNames

def isBinaryDigit (character : Char) : Bool :=
  character = '0' || character = '1' || character = '_'

def isOctalDigit (character : Char) : Bool :=
  ('0' ≤ character && character ≤ '7') || character = '_'

def isHexadecimalDigit (character : Char) : Bool :=
  isDigitOrUnderscore character || ('a' ≤ character && character ≤ 'f') ||
    ('A' ≤ character && character ≤ 'F')

def isInteger (text : List Char) : Bool :=
  match dropSign text with
  | ['0'] => true
  | '0' :: 'b' :: digits => !digits.isEmpty && digits.all isBinaryDigit
  | '0' :: 'x' :: digits => !digits.isEmpty && digits.all isHexadecimalDigit
  | '0' :: digits => digits.all isOctalDigit
  | first :: rest =>
      first.isDigit &&
        match sixtieths? (rest.dropWhile isDigitOrUnderscore) with
        | some (_, []) => true
        | _ => false
  | [] => false

/-- The type that the text of a plain scalar has by itself. -/
def ofPlain (text : List Char) : Tag :=
  let word := String.ofList text
  if word ∈ booleanNames then .boolean
  else if isReal text then .real
  else if isInteger text then .integer
  else if word = "<<" then .merge
  else if word ∈ nullNames then .null
  else if Timestamp.isPlain text then .timestamp
  else if word = "=" then .default
  else .text

end Tag

end ThreatModel.Yaml
