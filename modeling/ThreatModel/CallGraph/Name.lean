import ThreatModel.Text.Digit

/-!
Contract: the names of call-graph nodes.

Owns: the removal of numbered suffixes. A dollar sign with decimal digits after it
tells apart the closures of one function; without them they are one node.

Does not own: the lines that names stand in.
-/

namespace ThreatModel.CallGraph

open ThreatModel.Text

def startsWithDigit (text : List Char) : Bool :=
  (text.head?.map isDecimalDigit).getD false

/-- Removes each dollar sign before a digit together with the digits after it. Within a suffix,
digits are removed as well. -/
def stripFrom : (inSuffix : Bool) → List Char → List Char
  | _, [] => []
  | inSuffix, character :: rest =>
      if inSuffix && isDecimalDigit character then stripFrom true rest
      else if character = '$' && startsWithDigit rest then stripFrom true rest
      else character :: stripFrom false rest

/-- The name without numbered suffixes, wherever they stand. -/
def stripSuffix (name : String) : String :=
  String.ofList (stripFrom false name.toList)

end ThreatModel.CallGraph
