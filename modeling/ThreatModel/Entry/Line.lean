import ThreatModel.Entry.Basic
import ThreatModel.Entry.Shape
import ThreatModel.Text.Split

/-!
Contract: the reading of one line of annotated source.

Owns:
- the words of each kind of annotation;
- the order in which the kinds are tried, of which the first that fits decides;
- the match between a signature and the name of a declared function.

Does not own: what a line changes in a ledger.
-/

namespace ThreatModel.Entry

open ThreatModel.Text

private def text (characters : List Char) : String :=
  String.ofList characters

def declarationShape : Shape := ⟨"ThreatSpec", [" for "], .blank⟩

def mitigationShape : Shape := ⟨"Mitigates", [" against ", " with "], .reference⟩

def exposureShape : Shape := ⟨"Exposes", [" to ", " with "], .reference⟩

def activityShape : Shape := ⟨"Does", [" for "], .reference⟩

def flowShape (direction : Direction) : Shape := ⟨direction.keyword, [" from ", " to "], .blank⟩

def testShape : Shape := ⟨"Tests", [" for "], .reference⟩

def declaration? (body : List Char) : Option Entry :=
  match declarationShape.read? body with
  | some ([model, function], _) => some (.declaration (text model) (text function))
  | _ => none

def mitigation? (body : List Char) : Option Entry :=
  match mitigationShape.read? body with
  | some ([component, threat, mitigation], ref) =>
      some (.item (.mitigation (text component) (text threat) (text mitigation) (ref.map text)))
  | _ => none

def exposure? (body : List Char) : Option Entry :=
  match exposureShape.read? body with
  | some ([component, threat, exposure], ref) =>
      some (.item (.exposure (text component) (text threat) (text exposure) (ref.map text)))
  | _ => none

def activity? (body : List Char) : Option Entry :=
  match activityShape.read? body with
  | some ([action, component], ref) =>
      some (.item (.activity (text action) (text component) (ref.map text)))
  | _ => none

def flow?
    (direction : Direction)
    (body : List Char) :
    Option Entry :=
  match (flowShape direction).read? body with
  | some ([subject, source, dest], _) =>
      some (.item (.flow direction (text subject) (text source) (text dest)))
  | _ => none

def test? (body : List Char) : Option Entry :=
  match testShape.read? body with
  | some ([function, threat], ref) =>
      some (.item (.test (text function) (text threat) (ref.map text)))
  | _ => none

def signatureLine? (line : List Char) : Option Entry :=
  (signature? line).map fun (name, parameters) =>
    .signature (text (name ++ '(' :: parameters)) (text name)

/-- A recognizer reads a line without its line end. -/
abbrev Recognizer := List Char → Option Entry

/-- The recognizer of lines whose comment body `read` accepts. -/
def inComment (read : List Char → Option Entry) : Recognizer :=
  fun line => (commentBody? line).bind read

/-- Annotations come before signatures. -/
def recognizers : List Recognizer :=
  [inComment declaration?,
    inComment mitigation?,
    inComment exposure?,
    inComment activity?,
    inComment fun body => (flow? .sends body).or (flow? .receives body),
    inComment test?,
    signatureLine?]

/-- The reading of a line, whose line end does not count. -/
def ofLine? (line : String) : Option Entry :=
  recognizers.findSome? (· (dropLineEnd line.toList))

/-- A signature may carry a receiver before its name and a declared name may be dotted: the last
word of the one is compared with the last segment of the other. -/
def signatureMatches (signatureName functionName : String) : Bool :=
  match (words signatureName.toList).getLast? with
  | none => false
  | some word => word = lastPiece (· = '.') functionName.toList

end ThreatModel.Entry
