/-!
Contract: text inside markup.

Owns: the escape of the five characters that markup reads, and the fact that no
escaped text holds an angle bracket or a quote.

Does not own: any document.
-/

namespace ThreatModel.Text

def markupChar (character : Char) : List Char :=
  match character with
  | '&' => ['&', 'a', 'm', 'p', ';']
  | '<' => ['&', 'l', 't', ';']
  | '>' => ['&', 'g', 't', ';']
  | '\x27' => ['&', '#', '3', '9', ';']
  | '\x22' => ['&', '#', '3', '4', ';']
  | other => [other]

def markup (text : String) : String :=
  String.ofList (text.toList.flatMap markupChar)

/-- The characters that open or close a tag or an attribute value. -/
def isDelimiter (character : Char) : Bool :=
  character = '<' || character = '>' || character = '\x27' || character = '\x22'

theorem not_isDelimiter_of_mem_markupChar
    {written character : Char}
    (member : written ∈ markupChar character) :
    isDelimiter written = false := by
  have entity : ∀ {entity : List Char}, entity.all (!isDelimiter ·) = true →
      written ∈ entity → isDelimiter written = false := by
    intro entity plain inEntity
    simpa using List.all_eq_true.mp plain written inEntity
  unfold markupChar at member
  split at member
  · exact entity (by decide) member
  · exact entity (by decide) member
  · exact entity (by decide) member
  · exact entity (by decide) member
  · exact entity (by decide) member
  · rename_i other notAmpersand notLess notGreater notSingle notDouble
    rw [List.mem_singleton] at member
    subst member
    simp_all [isDelimiter]

end ThreatModel.Text
