/-!
Contract: what can be wrong with the value of a setting.

Owns: the faults, the place at which one is found, and their wording.

Does not own: which values are right.
-/

namespace ThreatModel

namespace Settings

inductive Problem where
  | notText
  /-- A text with what is no character. -/
  | badText
  | notAmong (names : List String)
  | notFlag
  /-- A number or a word that is neither for yes nor for no. -/
  | unclearFlag
  /-- A section, given by the name of its kind, that is no mapping. -/
  | notSection (kind : String)
deriving DecidableEq, Repr

namespace Problem

def inQuotes (name : String) : String :=
  "\x27" ++ name ++ "\x27"

/-- Names in quotes, as a list in a sentence. -/
def alternatives : List String → String
  | [] => ""
  | [name] => inQuotes name
  | [first, last] => inQuotes first ++ " or " ++ inQuotes last
  | first :: rest => inQuotes first ++ ", " ++ alternatives rest

def message : Problem → String
  | notText => "Input should be a valid string"
  | badText => "Input should be a valid string, unable to parse raw data as a unicode string"
  | notAmong names => "Input should be " ++ alternatives names
  | notFlag => "Input should be a valid boolean"
  | unclearFlag => "Input should be a valid boolean, unable to interpret input"
  | notSection kind => "Input should be a valid dictionary or instance of " ++ kind

/-- The name of a kind of problem. -/
def code : Problem → String
  | notText => "string_type"
  | badText => "string_unicode"
  | notAmong _ => "literal_error"
  | notFlag => "bool_type"
  | unclearFlag => "bool_parsing"
  | notSection _ => "model_type"

end Problem

/-- A problem at a setting, given by the names that lead to it. -/
structure Fault where
  place : List String
  problem : Problem
deriving DecidableEq, Repr

end Settings

end ThreatModel
