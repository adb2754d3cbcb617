import ThreatModel.Text.Lowercase
import ThreatModel.Text.Blank

/-!
Contract: components and their identity.

Owns:
- a component as a name within a zone;
- the reading of a reference, in which a colon parts zone and name;
- the normal form of a name and the key by which components are told apart.

Does not own: what is known about a component.
-/

namespace ThreatModel

open ThreatModel.Text

structure Component where
  zone : String
  name : String
deriving DecidableEq, Repr

namespace Component

/-- Letters and digits that a normal form keeps. -/
def isKeyChar (character : Char) : Bool :=
  ('a' ≤ character && character ≤ 'z') || ('0' ≤ character && character ≤ '9')

/-- Lower case, without anything but the Latin letters and digits of that. -/
def normalize (text : String) : String :=
  String.ofList ((lowercase text.toList).filter isKeyChar)

/-- Two components with one key count as the same component. -/
def key (component : Component) : String :=
  normalize component.zone ++ "-" ++ normalize component.name

/-- The parts of a reference before and after its first colon. -/
def splitReference? : List Char → Option (List Char × List Char)
  | [] => none
  | character :: rest =>
      if character = ':' then some ([], rest)
      else (splitReference? rest).map fun (zone, name) => (character :: zone, name)

/-- A reference without a colon, or with nothing on one side of it, is both zone and name. -/
def ofReference (reference : String) : Component :=
  let whole := String.ofList (trim reference.toList)
  match splitReference? reference.toList with
  | none => ⟨whole, whole⟩
  | some (zone, name) =>
      if trim zone = [] ∨ trim name = [] then ⟨whole, whole⟩
      else ⟨String.ofList (trim zone), String.ofList (trim name)⟩

end Component

end ThreatModel
