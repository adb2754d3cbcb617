import ThreatModel.Text.Blank

/-!
Contract: readers of the rest of a line.

Owns:
- fields, each as short as the rest of the line allows;
- fixed beginnings, and rests that are blank.

Does not own: any particular shape of a line.

A reader of a rest answers whether the whole rest has its shape. A field
therefore ends at the first place from which the rest of the line can be read,
and no place before it can.
-/

namespace ThreatModel.Text

variable {α : Type}

/-- The least newline-free text, perhaps empty, after which `follow` reads the rest. -/
def shortest
    (follow : List Char → Option α) :
    List Char → Option (List Char × α)
  | [] => (follow []).map ([], ·)
  | character :: rest =>
      match follow (character :: rest) with
      | some found => some ([], found)
      | none =>
          if character = '\n' then none
          else (shortest follow rest).map fun (field, found) => (character :: field, found)

/-- The least newline-free text of one character or more after which `follow` reads the rest. -/
def shortestField
    (follow : List Char → Option α) :
    List Char → Option (List Char × α)
  | [] => none
  | character :: rest =>
      if character = '\n' then none
      else (shortest follow rest).map fun (field, found) => (character :: field, found)

/-- The rest after a fixed beginning. -/
def after? : (beginning text : List Char) → Option (List Char)
  | [], text => some text
  | _ :: _, [] => none
  | expected :: beginning, character :: text =>
      if character = expected then after? beginning text else none

def allBlank (text : List Char) : Bool :=
  text.all isBlank

end ThreatModel.Text
