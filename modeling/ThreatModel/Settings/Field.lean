import ThreatModel.Settings.Fault
import ThreatModel.Text.Utf8
import ThreatModel.Yaml.Value

/-!
Contract: the settings that a single value makes.

Owns:
- texts, names from a list, and flags, which several kinds of values stand for;
- a field of a mapping, with its usual value where it is missing;
- several fields together, of which all faults are told.

Does not own: which fields there are.
-/

namespace ThreatModel

namespace Settings

open ThreatModel.Numeric
open ThreatModel.Yaml (Value)

/-! ## Values -/

def ofOctets? (octets : List UInt8) : Option String :=
  (Text.Utf8.decode octets).toOption.map String.ofList

/-- A text, or the octets of one. -/
def text : Value → Except Problem String
  | .text text => .ok text
  | .garbled => .error .badText
  | .octets octets =>
      match ofOctets? octets with
      | some text => .ok text
      | none => .error .badText
  | _ => .error .notText

def textOrNothing : Value → Except Problem (Option String)
  | .null => .ok none
  | value => (text value).map some

/-- One of the things whose names are known; case matters. -/
def choice {α : Type}
    (names : List String)
    (ofName? : String → Option α) :
    Value → Except Problem α
  | .text name =>
      match ofName? name with
      | some chosen => .ok chosen
      | none => .error (.notAmong names)
  | .garbled => .error .badText
  | _ => .error (.notAmong names)

def yesWords : List String :=
  ["1", "on", "t", "true", "y", "yes"]

def noWords : List String :=
  ["0", "off", "f", "false", "n", "no"]

/-- The words for yes and no, in any case. -/
def flagOfWord (word : String) : Except Problem Bool :=
  let lowered := String.ofList (word.toList.map Char.toLower)
  if lowered ∈ yesWords then .ok true
  else if lowered ∈ noWords then .ok false
  else .error .unclearFlag

def flagOfInteger (value : Int) : Except Problem Bool :=
  if value = 0 then .ok false
  else if value = 1 then .ok true
  else .error .unclearFlag

/-- Integers of 64 bits are numbers to a flag, and so are real numbers strictly between the ends of
that range. -/
def integerBound : Int := Int.ofNat (powerOfTwo 63)

def flag : Value → Except Problem Bool
  | .boolean value => .ok value
  | .text word => flagOfWord word
  | .garbled => .error .badText
  | .octets octets =>
      match ofOctets? octets with
      | some word => flagOfWord word
      | none => .error .unclearFlag
  | .integer value =>
      if -integerBound ≤ value ∧ value < integerBound then flagOfInteger value
      else .error .notFlag
  | .real value =>
      match value.whole? with
      | some whole =>
          if -integerBound < whole ∧ whole < integerBound then flagOfInteger whole
          else .error .notFlag
      | none => .error .notFlag
  | _ => .error .notFlag

/-! ## Fields -/

/-- What is made of values, or all faults in them. -/
abbrev Checked (α : Type) := Except (List Fault) α

def faultsOf {α : Type} : Checked α → List Fault
  | .ok _ => []
  | .error faults => faults

/-- Two results together, or the faults of both. -/
def join {α β γ : Type}
    (combine : α → β → γ) :
    Checked α → Checked β → Checked γ
  | .ok left, .ok right => .ok (combine left right)
  | left, right => .error (faultsOf left ++ faultsOf right)

/-- The field `name` of a mapping, or its usual value. -/
def field {α : Type}
    (pairs : List (Value × Value))
    (name : String)
    (usual : α)
    (check : Value → Except Problem α) :
    Checked α :=
  match Yaml.field? pairs name with
  | none => .ok usual
  | some value =>
      match check value with
      | .ok checked => .ok checked
      | .error problem => .error [⟨[name], problem⟩]

/-- The section `name` of a mapping, or its usual value. The places of its faults begin with its
name. -/
def group {α : Type}
    (pairs : List (Value × Value))
    (name kind : String)
    (usual : α)
    (check : List (Value × Value) → Checked α) :
    Checked α :=
  match Yaml.field? pairs name with
  | none => .ok usual
  | some (.mapping inner) =>
      match check inner with
      | .ok checked => .ok checked
      | .error faults => .error (faults.map fun fault => { fault with place := name :: fault.place })
  | some _ => .error [⟨[name], .notSection kind⟩]

end Settings

end ThreatModel
