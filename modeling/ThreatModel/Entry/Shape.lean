import ThreatModel.Text.Pattern

/-!
Contract: the shapes that annotation lines have.

Owns:
- shapes of fields between fixed words, the leftmost field as short as can be,
  with an optional reference at the end;
- the leader of a comment line;
- the shape of a signature line.

Does not own: the words of the annotations, or what the fields mean.
-/

namespace ThreatModel.Entry

open ThreatModel.Text

variable {α : Type}

/-- The text of a reference up to the first closing parenthesis that only blanks follow. -/
def closedReference? (text : List Char) : Option (List Char) :=
  (shortest
    (fun rest => (after? [')'] rest).bind fun tail => if allBlank tail then some () else none)
    text).map Prod.fst

/-- How the last field of a line may be followed. -/
inductive Ending where
  /-- By blanks only. -/
  | blank
  /-- By blanks, and between them perhaps by a reference in parentheses. -/
  | reference
deriving DecidableEq, Repr

/-- Reads what follows the last field; the answer is the reference, if there is one. -/
def Ending.read? : Ending → List Char → Option (Option (List Char))
  | .blank, rest => if allBlank rest then some none else none
  | .reference, rest =>
      match trimStart rest with
      | [] => some none
      | '(' :: inner => (closedReference? inner).map some
      | _ :: _ => none

/-- Reads one field more than there are separators. -/
def fields?
    (ending : Ending) :
    (separators : List (List Char)) →
    List Char →
    Option (List (List Char) × Option (List Char))
  | [], text =>
      (shortestField ending.read? text).map fun (field, ref) => ([field], ref)
  | separator :: separators, text =>
      (shortestField (fun rest => (after? separator rest).bind (fields? ending separators)) text).map
        fun (field, fields, ref) => (field :: fields, ref)

/-- A keyword, and the words that stand between the fields after it. -/
structure Shape where
  keyword : String
  separators : List String
  ending : Ending
deriving DecidableEq, Repr

/-- Reads a comment body: the keyword with the space after it, and then the fields. -/
def Shape.read?
    (shape : Shape)
    (body : List Char) :
    Option (List (List Char) × Option (List Char)) :=
  (after? (shape.keyword.toList ++ [' ']) body).bind
    (fields? shape.ending (shape.separators.map String.toList))

/-- What follows the comment marker and the blanks around it. -/
def commentBody? (line : List Char) : Option (List Char) :=
  match trimStart line with
  | '/' :: '/' :: body => some (trimStart body)
  | '#' :: body => some (trimStart body)
  | _ => none

/-- Skips one blank or more; of the ways to do so that `follow` accepts, the one that skips most. -/
def afterBlanks?
    (follow : List Char → Option α) :
    List Char → Option α
  | [] => none
  | character :: rest =>
      if isBlank character then (afterBlanks? follow rest).or (follow rest) else none

/-- An opening brace with blanks around it ends the line. -/
def bracedEnd? (rest : List Char) : Option Unit :=
  match trimStart rest with
  | '\x7b' :: tail => if allBlank tail then some () else none
  | _ => none

/-- A name, an opening parenthesis, and a text up to the brace that ends the line. -/
def signatureParts? (text : List Char) : Option (List Char × List Char) :=
  shortestField
    (fun rest => (after? ['('] rest).bind fun inner => (shortest bracedEnd? inner).map Prod.fst)
    text

/-- The name and the parameters of a signature line, the name being what precedes the parameters'
opening parenthesis. -/
def signature? (line : List Char) : Option (List Char × List Char) :=
  (after? ['f', 'u', 'n', 'c'] (trimStart line)).bind (afterBlanks? signatureParts?)

end ThreatModel.Entry
