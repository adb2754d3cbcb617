import ThreatModel.Diagram.Builder
import ThreatModel.Diagram.Dot
import ThreatModel.Proofs.Text.Markup
import ThreatModel.Proofs.Text.Marks

/-!
Contract: the labels of an edge cannot be forged by what they say.

Owns:
- the colours that labels are given;
- the label of an edge as tags with escaped texts between them;
- that the labels can be told from what is written, that all angle brackets within it
  are those of its tags, and that it is one token.

Does not own: the labels of nodes and clusters, which are not escaped.
-/

namespace ThreatModel.Diagram.Dot

open ThreatModel.Text

/-! ## Colours -/

/-- The colours of calls by their risk, and those of flows by their direction. -/
def palette : List String :=
  Risk.all.map Risk.labelColor ++ [Direction.sends.color, Direction.receives.color]

/-- A colour cannot end its attribute or its tag. -/
theorem not_mem_color
    {color : String}
    (inPalette : color ∈ palette)
    {mark : Char}
    (isMark : isDelimiter mark = true ∨ mark = '\n') :
    mark ∉ color.toList := by
  have letters : (palette.all fun color => color.toList.all startsIdentifier) = true := by
    decide
  have ofColor : color.toList.all startsIdentifier = true :=
    List.all_eq_true.mp letters color inPalette
  intro member
  have isLetter : startsIdentifier mark = true := List.all_eq_true.mp ofColor mark member
  rcases isMark with isDelimiter | rfl
  · simp only [Text.isDelimiter, Bool.or_eq_true, decide_eq_true_iff] at isDelimiter
    rcases isDelimiter with ((rfl | rfl) | rfl) | rfl
    all_goals exact absurd isLetter (by decide)
  · exact absurd isLetter (by decide)

/-! ## One label -/

def fontTag (color : String) : String :=
  "<font color=\"" ++ color ++ "\">"

def fontEnd : String :=
  "</font>"

def breakTag : String :=
  "<br/>"

theorem toList_labelMarkup (label : EdgeLabel) :
    (labelMarkup label).toList =
      "<font color=\"".toList ++ (label.color.toList ++ '\x22' :: '>' ::
        ((markup label.text).toList ++ '<' :: "/font>".toList)) := by
  simp [labelMarkup]

/-- A colour ends at the first quote, and an escaped text at the first bracket. -/
theorem labelMarkup_append_inj
    {label other : EdgeLabel}
    (colored : label.color ∈ palette)
    (otherColored : other.color ∈ palette)
    {back otherBack : List Char}
    (same : (labelMarkup label).toList ++ back = (labelMarkup other).toList ++ otherBack) :
    label = other ∧ back = otherBack := by
  have quoteless {color : String} (inPalette : color ∈ palette) : '\x22' ∉ color.toList :=
    not_mem_color inPalette (.inl (by decide))
  have unopened (text : String) : '<' ∉ (markup text).toList :=
    not_mem_markup (by decide) text
  simp only [toList_labelMarkup, List.append_assoc, List.cons_append] at same
  obtain ⟨sameColor, behindColor⟩ := append_cons_inj_of_first (quoteless colored)
    (quoteless otherColored) (List.append_cancel_left same)
  obtain ⟨sameText, behindText⟩ := append_cons_inj_of_first (unopened label.text)
    (unopened other.text) (List.cons.inj behindColor).2
  refine ⟨?_, List.append_cancel_left behindText⟩
  rw [EdgeLabel.mk.injEq]
  exact ⟨markup_injective (String.toList_injective sameText), String.toList_injective sameColor⟩

theorem bracketedBy_labelMarkup (label : EdgeLabel) :
    BracketedBy [fontTag label.color, fontEnd] (labelMarkup label).toList := by
  have spelled : (labelMarkup label).toList =
      (fontTag label.color).toList ++ ((markup label.text).toList ++ fontEnd.toList) := by
    simp [labelMarkup, fontTag, fontEnd]
  have text : BracketedBy [] (markup label.text).toList :=
    .of_unbracketed (not_mem_markup (by decide) label.text) (not_mem_markup (by decide) label.text)
  rw [spelled]
  exact .tag _ (text.append (.single fontEnd))

/-! ## All labels of an edge -/

/-- What stands between the outer brackets. -/
def labelRows (labels : List EdgeLabel) : List Char :=
  "<br/>\n".toList.intercalate (labels.map fun label => (labelMarkup label).toList)

/-- The tags around each text, and the breaks between texts. -/
def labelTags (labels : List EdgeLabel) : List String :=
  [breakTag].intercalate (labels.map fun label => [fontTag label.color, fontEnd])

theorem toList_edgeLabel (labels : List EdgeLabel) :
    (edgeLabel labels).toList = '<' :: (labelRows labels ++ ['>']) := by
  simp [edgeLabel, labelRows, String.toList_intercalate, Function.comp_def]

theorem bracketedBy_labelRows (labels : List EdgeLabel) :
    BracketedBy (labelTags labels) (labelRows labels) := by
  have separator : BracketedBy [breakTag] "<br/>\n".toList :=
    .tag breakTag (.plain (by decide) (by decide) .nil)
  exact separator.intercalate bracketedBy_labelMarkup labels

/-- What stands behind the first label, up to the closing bracket of all. -/
def behindLabel : List EdgeLabel → List Char
  | [] => ['>']
  | next :: later => "<br/>\n".toList ++ (labelRows (next :: later) ++ ['>'])

theorem labelRows_cons_append (label : EdgeLabel) (rest : List EdgeLabel) :
    labelRows (label :: rest) ++ ['>'] = (labelMarkup label).toList ++ behindLabel rest := by
  cases rest with
  | nil => simp [labelRows, behindLabel]
  | cons next later => simp [labelRows, behindLabel, List.intercalate_cons_cons]

/-- Behind a label stands a break, or the closing bracket. -/
theorem labelRows_inj
    {labels others : List EdgeLabel}
    (colored : ∀ label ∈ labels, label.color ∈ palette)
    (otherColored : ∀ label ∈ others, label.color ∈ palette)
    (same : labelRows labels ++ ['>'] = labelRows others ++ ['>']) :
    labels = others := by
  have inhabited (label : EdgeLabel) (rest : List EdgeLabel) :
      ['>'] ≠ labelRows (label :: rest) ++ ['>'] := by
    rw [labelRows_cons_append, toList_labelMarkup]
    simp
  induction labels generalizing others with
  | nil =>
      cases others with
      | nil => rfl
      | cons other otherRest => exact absurd same (inhabited other otherRest)
  | cons label rest inductionHypothesis =>
      cases others with
      | nil => exact absurd same.symm (inhabited label rest)
      | cons other otherRest =>
          rw [List.forall_mem_cons] at colored otherColored
          rw [labelRows_cons_append, labelRows_cons_append] at same
          obtain ⟨rfl, behind⟩ := labelMarkup_append_inj colored.1 otherColored.1 same
          have sameRest : rest = otherRest := by
            cases rest with
            | nil =>
                cases otherRest with
                | nil => rfl
                | cons next later => simp [behindLabel] at behind
            | cons next later =>
                cases otherRest with
                | nil => simp [behindLabel] at behind
                | cons otherNext otherLater =>
                    exact inductionHypothesis colored.2 otherColored.2
                      (List.append_cancel_left behind)
          rw [sameRest]

/-- A closing bracket at the end is no newline that would have to be left out. -/
theorem token_of_enclosed
    {text : String}
    {inner : List Char}
    (enclosed : text.toList = '<' :: (inner ++ ['>'])) :
    token text = text := by
  have last : ('<' :: (inner ++ ['>'])).getLast? = some '>' := by
    rw [← List.cons_append, List.getLast?_append, List.getLast?_singleton]
    rfl
  have isMarkup : isMarkup text.toList = true := by
    rw [isMarkup, dropFinalNewline, enclosed, last, if_neg (by decide), last, List.head?_cons]
    rfl
  rw [token, tokenChars, isMarkup, Bool.true_or, if_pos rfl, String.ofList_toList]

/-- Labels in colours of the palette, whatever they say, can be told from what is written. It is in
angle brackets from end to end, and so one token as it is; and all angle brackets within are those
of the tags around the texts and between them. -/
theorem edgeLabel_unforgeable
    {labels : List EdgeLabel}
    (colored : ∀ label ∈ labels, label.color ∈ palette) :
    (∀ others : List EdgeLabel, (∀ label ∈ others, label.color ∈ palette) →
        (edgeLabel labels = edgeLabel others ↔ labels = others)) ∧
      (∃ inner,
        (edgeLabel labels).toList = '<' :: (inner ++ ['>']) ∧
          BracketedBy (labelTags labels) inner) ∧
      token (edgeLabel labels) = edgeLabel labels := by
  have enclosed := toList_edgeLabel labels
  refine ⟨fun others otherColored => ?_, ⟨_, enclosed, bracketedBy_labelRows labels⟩,
    token_of_enclosed enclosed⟩
  refine ⟨fun same => labelRows_inj colored otherColored ?_, congrArg edgeLabel⟩
  have sameChars := congrArg String.toList same
  rw [enclosed, toList_edgeLabel] at sameChars
  exact (List.cons.inj sameChars).2

/-- A label that spells the end of its own tag, a break, and a label of another colour. -/
def forgingLabels : List EdgeLabel :=
  [⟨"pay</font><br/>\n<font color=\"red\">refund", "blue"⟩]

/-- The labels that it spells. -/
def spelledLabels : List EdgeLabel :=
  [⟨"pay", "blue"⟩, ⟨"refund", "red"⟩]

theorem forgingLabels_told_apart :
    (∀ label ∈ forgingLabels ++ spelledLabels, label.color ∈ palette) ∧
      edgeLabel forgingLabels ≠ edgeLabel spelledLabels ∧
      ∃ inner,
        (edgeLabel forgingLabels).toList = '<' :: (inner ++ ['>']) ∧
          BracketedBy ["<font color=\"blue\">", "</font>"] inner := by
  have colored : ∀ label ∈ forgingLabels, label.color ∈ palette := by decide
  have otherColored : ∀ label ∈ spelledLabels, label.color ∈ palette := by decide
  obtain ⟨told, enclosed, _⟩ := edgeLabel_unforgeable colored
  refine ⟨by decide, fun same => ?_, enclosed⟩
  have sameLabels := (told spelledLabels otherColored).mp same
  exact absurd sameLabels (by decide)

end ThreatModel.Diagram.Dot
