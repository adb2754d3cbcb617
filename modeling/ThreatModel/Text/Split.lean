import ThreatModel.Text.Blank

/-!
Contract: cutting a text at separator characters.

Owns:
- the pieces between separators, empty pieces included;
- words (the inked pieces between blanks) and lines (the pieces between newlines);
- removal of the line end that a line may still carry, and the unification of
  line ends.

Does not own: the reading of files.
-/

namespace ThreatModel.Text

/-- The pieces between separators, in order. There is always at least one, and
each piece but the last is followed by exactly one separator. -/
def splitWhere
    (separates : Char → Bool) :
    List Char → List (List Char)
  | [] => [[]]
  | character :: rest =>
      if separates character then
        [] :: splitWhere separates rest
      else
        (splitWhere separates rest).modifyHead (character :: ·)

theorem splitWhere_ne_nil
    (separates : Char → Bool)
    (text : List Char) :
    splitWhere separates text ≠ [] := by
  induction text with
  | nil => simp [splitWhere]
  | cons character rest inductionHypothesis =>
      unfold splitWhere
      split
      · simp
      · simpa using inductionHypothesis

/-- The inked pieces between blanks. -/
def words (text : List Char) : List (List Char) :=
  (splitWhere isBlank text).filter (!·.isEmpty)

/-- The pieces between newlines; a text that ends in a newline has an empty last line. -/
def lines (text : List Char) : List (List Char) :=
  splitWhere (· = '\n') text

def textLines (text : String) : List String :=
  (lines text.toList).map String.ofList

/-- The piece after the last separator, or the whole text when there is none. -/
def lastPiece
    (separates : Char → Bool)
    (text : List Char) :
    List Char :=
  (splitWhere separates text).getLast (splitWhere_ne_nil separates text)

def isLineEnd (character : Char) : Bool :=
  character = '\r' || character = '\n'

/-- The line without the carriage returns and newlines at its end. -/
def dropLineEnd (line : List Char) : List Char :=
  (line.reverse.dropWhile isLineEnd).reverse

/-- The text without one newline at its end. -/
def dropFinalNewline (text : List Char) : List Char :=
  if text.getLast? = some '\n' then text.dropLast else text

/-- A carriage return, alone or with the newline after it, becomes one newline. -/
def unifyLineEnds : List Char → List Char
  | [] => []
  | '\r' :: '\n' :: rest => '\n' :: unifyLineEnds rest
  | '\r' :: rest => '\n' :: unifyLineEnds rest
  | character :: rest => character :: unifyLineEnds rest

end ThreatModel.Text
