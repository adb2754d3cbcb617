import ThreatModel.Text.CaseTable
import ThreatModel.Text.CodePoint

/-!
Contract: lower case for all scripts.

Owns:
- the lower case of a character that does not depend on its neighbours;
- the lower case of a text, in which a capital sigma that ends a word becomes a
  final sigma.

Does not own: language-dependent lowering.
-/

namespace ThreatModel.Text

/-- The lower-case letter of a capital with exactly one, in rows as `capitalRows` lays them out. -/
def lowercaseLetter? (character : Char) : Option Char :=
  (capitalRows.find? fun row =>
      row.1 ≤ character.toNat && character.toNat ≤ row.2.1 &&
        (character.toNat - row.1) % row.2.2.1 == 0).map fun row =>
    Char.ofNat (row.2.2.2 + (character.toNat - row.1))

/-- The lower case of a character other than a capital sigma. The dotted capital I is the only
one that becomes two characters: an i and a combining dot above. -/
def lowercaseChar (character : Char) : List Char :=
  if character = '\u0130' then
    ['i', '\u0307']
  else
    [(lowercaseLetter? character).getD character]

def isCaseIgnorable (character : Char) : Bool :=
  inRanges caseIgnorableRanges character

def isCased (character : Char) : Bool :=
  inRanges casedRanges character

/-- The first character that case rules do not look through is a cased letter. -/
def startsCased (text : List Char) : Bool :=
  ((text.dropWhile isCaseIgnorable).head?.map isCased).getD false

/-- Lowers a text that stands after a cased letter or not. -/
def lowercaseAfter : (afterCased : Bool) → List Char → List Char
  | _, [] => []
  | afterCased, character :: rest =>
      (if character = '\u03A3' then
        [if afterCased && !startsCased rest then '\u03C2' else '\u03C3']
      else
        lowercaseChar character) ++
      lowercaseAfter
        (if isCaseIgnorable character then afterCased else isCased character)
        rest

def lowercase (text : List Char) : List Char :=
  lowercaseAfter false text

end ThreatModel.Text
