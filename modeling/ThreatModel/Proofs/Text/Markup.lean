import ThreatModel.Text.Markup

/-!
Contract: escaped texts, and the tags between which they stand.

Owns:
- that an escaped text is read back, so that no two texts have one escaped form;
- which characters do not come to stand in an escaped text;
- texts whose angle brackets are all those of given tags.

Does not own: which tags a document has.
-/

namespace ThreatModel.Text

/-! ## Escapes read back -/

/-- The text that was escaped. -/
def unescape : List Char → List Char
  | '&' :: 'a' :: 'm' :: 'p' :: ';' :: rest => '&' :: unescape rest
  | '&' :: 'l' :: 't' :: ';' :: rest => '<' :: unescape rest
  | '&' :: 'g' :: 't' :: ';' :: rest => '>' :: unescape rest
  | '&' :: '#' :: '3' :: '9' :: ';' :: rest => '\x27' :: unescape rest
  | '&' :: '#' :: '3' :: '4' :: ';' :: rest => '\x22' :: unescape rest
  | character :: rest => character :: unescape rest
  | [] => []

theorem unescape_cons
    {character : Char}
    (plain : character ≠ '&')
    (rest : List Char) :
    unescape (character :: rest) = character :: unescape rest := by
  rw [unescape]
  all_goals
    intro _ isAmpersand
    exact absurd isAmpersand plain

/-- Each escaped character takes up no more than its own escape. -/
theorem unescape_markupChar_append
    (character : Char)
    (rest : List Char) :
    unescape (markupChar character ++ rest) = character :: unescape rest := by
  unfold markupChar
  split
  · rfl
  · rfl
  · rfl
  · rfl
  · rfl
  · next notAmpersand _ _ _ _ => exact unescape_cons notAmpersand rest

theorem unescape_markup (text : String) : unescape (markup text).toList = text.toList := by
  rw [markup, String.toList_ofList]
  induction text.toList with
  | nil => rfl
  | cons character rest inductionHypothesis =>
      rw [List.flatMap_cons, unescape_markupChar_append, inductionHypothesis]

theorem markup_injective : Function.Injective markup := by
  intro text other same
  have readBack := congrArg (fun escaped => unescape escaped.toList) same
  simp only [unescape_markup] at readBack
  exact String.toList_injective readBack

theorem not_mem_markup
    {mark : Char}
    (isDelimiter : isDelimiter mark = true)
    (text : String) :
    mark ∉ (markup text).toList := by
  intro member
  rw [markup, String.toList_ofList, List.mem_flatMap] at member
  obtain ⟨character, _, written⟩ := member
  rw [not_isDelimiter_of_mem_markupChar written] at isDelimiter
  cases isDelimiter

/-- No escape has a newline in it. -/
theorem sameLine_markup
    {text : String}
    (sameLine : '\n' ∉ text.toList) :
    '\n' ∉ (markup text).toList := by
  intro newline
  rw [markup, String.toList_ofList, List.mem_flatMap] at newline
  obtain ⟨character, member, written⟩ := newline
  have isNewline : character = '\n' := by
    unfold markupChar at written
    split at written
    case h_6 => exact (List.mem_singleton.mp written).symm
    all_goals exact absurd written (by decide)
  exact sameLine (isNewline ▸ member)

/-! ## Brackets of tags -/

/-- The text is these tags, in this order, among characters that are no angle brackets. -/
inductive BracketedBy : (tags : List String) → (text : List Char) → Prop where
  | nil : BracketedBy [] []
  | plain {character : Char} {tags : List String} {rest : List Char}
      (noOpening : character ≠ '<')
      (noClosing : character ≠ '>')
      (later : BracketedBy tags rest) :
      BracketedBy tags (character :: rest)
  | tag (tag : String) {tags : List String} {rest : List Char}
      (later : BracketedBy tags rest) :
      BracketedBy (tag :: tags) (tag.toList ++ rest)

namespace BracketedBy

theorem of_unbracketed
    {text : List Char}
    (unopened : '<' ∉ text)
    (unclosed : '>' ∉ text) :
    BracketedBy [] text := by
  induction text with
  | nil => exact .nil
  | cons head rest inductionHypothesis =>
      rw [List.mem_cons, not_or] at unopened unclosed
      exact .plain (Ne.symm unopened.1) (Ne.symm unclosed.1)
        (inductionHypothesis unopened.2 unclosed.2)

theorem single (tag : String) : BracketedBy [tag] tag.toList := by
  have alone := BracketedBy.tag tag .nil
  rwa [List.append_nil] at alone

theorem append
    {tags others : List String}
    {front back : List Char}
    (ofFront : BracketedBy tags front)
    (ofBack : BracketedBy others back) :
    BracketedBy (tags ++ others) (front ++ back) := by
  induction ofFront with
  | nil => exact ofBack
  | plain noOpening noClosing _ inductionHypothesis =>
      exact .plain noOpening noClosing inductionHypothesis
  | tag tag _ inductionHypothesis =>
      rw [List.append_assoc]
      exact .tag tag inductionHypothesis

/-- The tags of the separator stand between those of the texts. -/
theorem intercalate
    {α : Type}
    {separator : List Char}
    {separatorTags : List String}
    (ofSeparator : BracketedBy separatorTags separator)
    {tags : α → List String}
    {text : α → List Char}
    (each : ∀ element, BracketedBy (tags element) (text element))
    (elements : List α) :
    BracketedBy (separatorTags.intercalate (elements.map tags))
      (separator.intercalate (elements.map text)) := by
  induction elements with
  | nil => exact .nil
  | cons head rest inductionHypothesis =>
      cases rest with
      | nil =>
          rw [List.map_singleton, List.map_singleton, List.intercalate_singleton,
            List.intercalate_singleton]
          exact each head
      | cons next later =>
          rw [List.map_cons, List.map_cons, List.map_cons, List.map_cons,
            List.intercalate_cons_cons, List.intercalate_cons_cons]
          exact ((each head).append ofSeparator).append inductionHypothesis

end BracketedBy

end ThreatModel.Text
