import ThreatModel.Format
import ThreatModel.Proofs.Diagram.Identifiers
import ThreatModel.Proofs.Ledger.OneLine
import ThreatModel.Proofs.Numeric.Marks

/-!
Contract: the lines of a Mermaid drawing, each of which can be read back from its text.

Owns:
- what a label may still have in it, and that every label written is such;
- the kinds of lines with what they hold, and the text of each;
- that lines whose texts are the same are the same line, and that no text of a line
  is broken by a newline.

Does not own: the order in which lines stand in a drawing.
-/

namespace ThreatModel.Diagram.Mermaid

open ThreatModel.Component
open ThreatModel.Text

/-! ## Labels -/

/-- The marks that could end a label, or the line that it stands in. -/
def delimiters : List Char :=
  ['\x22', '|', '(', ')', '[', ']', '<', '>', '\n']

/-- A label without delimiters. -/
def Safe (label : String) : Prop :=
  ∀ mark ∈ delimiters, mark ∉ label.toList

/-- The marks within a line are replaced or left out; only a newline would stay. -/
theorem eq_newline_of_labelChar?
    {character mark : Char}
    (isDelimiter : mark ∈ delimiters)
    (kept : labelChar? character = some mark) :
    character = '\n' := by
  unfold labelChar? at kept
  split at kept
  · cases kept
    revert isDelimiter
    decide
  · cases kept
    revert isDelimiter
    decide
  all_goals simp_all [delimiters]

theorem safe_label
    {text : String}
    (oneLine : OneLine text) :
    Safe (label text) := by
  intro mark isDelimiter member
  rw [label, String.toList_ofList, List.mem_filterMap] at member
  obtain ⟨character, inText, kept⟩ := member
  exact oneLine (eq_newline_of_labelChar? isDelimiter kept ▸ inText)

/-! ## Identifiers -/

/-- An identifier has low lines, capitals before a digit, and characters of keys. -/
theorem not_mem_identifier
    {key : String}
    (isKey : IsKey key)
    {mark : Char}
    (notKeyChar : isKeyChar mark = false)
    (notJoint : mark ≠ '_')
    (notCapital : mark ≠ 'N') :
    mark ∉ (identifier key).toList := by
  obtain ⟨zone, name, zoneNormal, nameNormal, rfl⟩ := isKey
  rw [identifier, identifierChars_key zoneNormal nameNormal, String.toList_ofList]
  have notInMark : mark ∉ digitMark zone.toList := by
    unfold digitMark
    split
    · exact List.not_mem_nil
    · split
      · simp [notJoint, notCapital]
      · exact List.not_mem_nil
  simp [notInMark, notJoint, zoneNormal.not_mem notKeyChar, nameNormal.not_mem notKeyChar]

theorem lowLine_mem_identifier
    {key : String}
    (isKey : IsKey key) :
    '_' ∈ (identifier key).toList := by
  obtain ⟨zone, name, zoneNormal, nameNormal, rfl⟩ := isKey
  rw [identifier, identifierChars_key zoneNormal nameNormal, String.toList_ofList]
  simp

/-! ## Lines -/

/-- A line of a drawing, its labels as they are written. -/
inductive DrawingLine where
  | heading (direction : RankDirection)
  | opening (zone label : String)
  | node (key label : String) (shape : NodeShape)
  | closing
  | edge (source dest : String) (labels : List String)
  | nodeStyle (key color : String)
  | edgeStyle (number : Nat) (color : String)
deriving DecidableEq

inductive LineKind where
  | heading
  | opening
  | node
  | closing
  | edge
  | nodeStyle
  | edgeStyle
deriving DecidableEq

namespace DrawingLine

def text : DrawingLine → String
  | heading direction => "flowchart " ++ direction.name
  | opening zone label =>
      "    subgraph " ++ identifier ("cluster_" ++ zone) ++ "[\"" ++ label ++ "\"]"
  | node key label shape =>
      "        " ++ identifier key ++ (brackets shape).1 ++ "\"" ++ label ++ "\"" ++
        (brackets shape).2
  | closing => "    end"
  | edge source dest labels =>
      "    " ++ identifier source ++ " -->|" ++ "<br/>".intercalate labels ++ "| " ++
        identifier dest
  | nodeStyle key color =>
      "    style " ++ identifier key ++ " stroke:" ++ color ++ ",stroke-width:2px"
  | edgeStyle number color => "    linkStyle " ++ toString number ++ " stroke:" ++ color

def kind : DrawingLine → LineKind
  | heading _ => .heading
  | opening _ _ => .opening
  | node _ _ _ => .node
  | closing => .closing
  | edge _ _ _ => .edge
  | nodeStyle _ _ => .nodeStyle
  | edgeStyle _ _ => .edgeStyle

/-- What the line holds can be told from what is around it. -/
def Legible : DrawingLine → Prop
  | heading _ => True
  | opening zone label => IsNormal zone ∧ Safe label
  | node key label shape => IsKey key ∧ Safe label ∧ (shape = .box ∨ shape = .oval)
  | closing => True
  | edge source dest labels =>
      IsKey source ∧ IsKey dest ∧ labels ≠ [] ∧ ∀ label ∈ labels, Safe label
  | nodeStyle key color => IsKey key ∧ OneLine color
  | edgeStyle _ color => OneLine color

theorem toList_heading (direction : RankDirection) :
    (heading direction).text.toList = "flowchart ".toList ++ direction.name.toList :=
  String.toList_append

theorem toList_opening (zone label : String) :
    (opening zone label).text.toList =
      "    subgraph ".toList ++ ((identifier ("cluster_" ++ zone)).toList ++
        '[' :: '\x22' :: (label.toList ++ ['\x22', ']'])) := by
  change ("    subgraph " ++ identifier ("cluster_" ++ zone) ++ "[\"" ++ label ++ "\"]").toList = _
  simp

theorem toList_node
    (key label : String)
    (shape : NodeShape) :
    (node key label shape).text.toList =
      "        ".toList ++ ((identifier key).toList ++ (brackets shape).1.toList ++
        '\x22' :: (label.toList ++ '\x22' :: (brackets shape).2.toList)) := by
  change ("        " ++ identifier key ++ (brackets shape).1 ++ "\"" ++ label ++ "\"" ++
    (brackets shape).2).toList = _
  simp

theorem toList_edge
    (source dest : String)
    (labels : List String) :
    (edge source dest labels).text.toList =
      "    ".toList ++ ((identifier source).toList ++ ' ' :: ("-->|".toList ++
        (['<', 'b', 'r', '/', '>'].intercalate (labels.map String.toList) ++
          '|' :: ' ' :: (identifier dest).toList))) := by
  change ("    " ++ identifier source ++ " -->|" ++ "<br/>".intercalate labels ++ "| " ++
    identifier dest).toList = _
  simp [String.toList_intercalate]

theorem toList_nodeStyle (key color : String) :
    (nodeStyle key color).text.toList =
      "    style ".toList ++ ((identifier key).toList ++ ' ' :: ("stroke:".toList ++
        (color.toList ++ ",stroke-width:2px".toList))) := by
  change ("    style " ++ identifier key ++ " stroke:" ++ color ++ ",stroke-width:2px").toList = _
  simp

theorem toList_edgeStyle
    (number : Nat)
    (color : String) :
    (edgeStyle number color).text.toList =
      "    linkStyle ".toList ++ (Nat.toDigits 10 number ++ ' ' ::
        ("stroke:".toList ++ color.toList)) := by
  change ("    linkStyle " ++ toString number ++ " stroke:" ++ color).toList = _
  simp

end DrawingLine

/-! ## The kind of a line -/

/-- The word behind the first four characters of a line. -/
def secondWord (line : List Char) : List Char :=
  (line.drop 4).takeWhile (· ≠ ' ')

/-- A word with a low line in it, or any other that is no word of the language, begins an edge. -/
def LineKind.ofWord (word : List Char) : LineKind :=
  if word = "chart".toList then .heading
  else if word = "subgraph".toList then .opening
  else if word = [] then .node
  else if word = "end".toList then .closing
  else if word = "style".toList then .nodeStyle
  else if word = "linkStyle".toList then .edgeStyle
  else .edge

theorem LineKind.ofWord_eq_edge
    {word : List Char}
    (joined : '_' ∈ word) :
    ofWord word = .edge := by
  have other {plain : List Char} (clear : '_' ∉ plain) : word ≠ plain :=
    fun same => clear (same ▸ joined)
  simp [ofWord, other]

namespace DrawingLine

/-- Only the source of an edge may stand where other lines have a word of the language. -/
theorem ofWord_secondWord_text
    {line : DrawingLine}
    (legible : line.Legible) :
    LineKind.ofWord (secondWord line.text.toList) = line.kind := by
  cases line with
  | heading direction => simp [toList_heading, secondWord, LineKind.ofWord, kind]
  | opening zone label => simp [toList_opening, secondWord, LineKind.ofWord, kind]
  | node key label shape => simp [toList_node, secondWord, LineKind.ofWord, kind]
  | closing => decide
  | edge source dest labels =>
      have blankless : ' ' ∉ (identifier source).toList :=
        not_mem_identifier legible.1 (by decide) (by decide) (by decide)
      have word : secondWord (edge source dest labels).text.toList =
          (identifier source).toList := by
        simpa [toList_edge, secondWord] using takeWhile_append_cons blankless _
      rw [word]
      exact LineKind.ofWord_eq_edge (lowLine_mem_identifier legible.1)
  | nodeStyle key color => simp [toList_nodeStyle, secondWord, LineKind.ofWord, kind]
  | edgeStyle number color => simp [toList_edgeStyle, secondWord, LineKind.ofWord, kind]

/-! ## What a line holds -/

theorem heading_inj
    {direction other : RankDirection}
    (same : (heading direction).text = (heading other).text) :
    direction = other := by
  have sameChars := congrArg String.toList same
  rw [toList_heading, toList_heading] at sameChars
  have sameName := String.toList_injective (List.append_cancel_left sameChars)
  have known (direction : RankDirection) :
      RankDirection.ofName? direction.name = some direction := by
    cases direction <;> decide
  exact Option.some.inj ((known direction).symm.trans (sameName ▸ known other))

/-- The identifier ends before the first bracket. -/
theorem opening_inj
    {zone other label otherLabel : String}
    (legible : (opening zone label).Legible)
    (otherLegible : (opening other otherLabel).Legible)
    (same : (opening zone label).text = (opening other otherLabel).text) :
    zone = other ∧ label = otherLabel := by
  obtain ⟨zoneNormal, _⟩ := legible
  obtain ⟨otherNormal, _⟩ := otherLegible
  have clear {zone : String} (zoneNormal : IsNormal zone) :
      '[' ∉ (identifier ("cluster_" ++ zone)).toList := by
    rw [identifier_cluster zoneNormal]
    exact not_mem_identifier (isKey_namesakeKey zoneNormal) (by decide) (by decide) (by decide)
  have parted := congrArg String.toList same
  rw [toList_opening, toList_opening, List.append_right_inj] at parted
  obtain ⟨sameIdentifier, sameBack⟩ :=
    append_cons_inj_of_first (clear zoneNormal) (clear otherNormal) parted
  have sameLabel := List.append_cancel_right (List.cons.inj sameBack).2
  exact ⟨identifier_cluster_inj zoneNormal otherNormal (String.toList_injective sameIdentifier),
    String.toList_injective sameLabel⟩

/-- The label stands between the only quotes, and the brackets around these tell the shape. -/
theorem node_inj
    {key other label otherLabel : String}
    {shape otherShape : NodeShape}
    (legible : (node key label shape).Legible)
    (otherLegible : (node other otherLabel otherShape).Legible)
    (same : (node key label shape).text = (node other otherLabel otherShape).text) :
    key = other ∧ label = otherLabel ∧ shape = otherShape := by
  obtain ⟨isKey, labelSafe, isShape⟩ := legible
  obtain ⟨isOther, otherSafe, isOtherShape⟩ := otherLegible
  have clear {key : String} (isKey : IsKey key) (shape : NodeShape) :
      '\x22' ∉ (identifier key).toList ++ (brackets shape).1.toList := by
    have notInIdentifier : '\x22' ∉ (identifier key).toList :=
      not_mem_identifier isKey (by decide) (by decide) (by decide)
    cases shape <;> simp [brackets, notInIdentifier]
  have parted := congrArg String.toList same
  rw [toList_node, toList_node, List.append_right_inj] at parted
  obtain ⟨sameFront, sameBack⟩ :=
    append_cons_inj_of_first (clear isKey shape) (clear isOther otherShape) parted
  obtain ⟨sameLabel, sameClosing⟩ :=
    append_cons_inj_of_first (labelSafe '\x22' (by decide)) (otherSafe '\x22' (by decide)) sameBack
  have sameShape : shape = otherShape := by
    rcases isShape with rfl | rfl
    · rcases isOtherShape with rfl | rfl
      · rfl
      · simp [brackets] at sameClosing
    · rcases isOtherShape with rfl | rfl
      · simp [brackets] at sameClosing
      · rfl
  rw [sameShape] at sameFront
  have sameIdentifier := String.toList_injective (List.append_cancel_right sameFront)
  exact ⟨identifier_key_inj isKey isOther sameIdentifier, String.toList_injective sameLabel,
    sameShape⟩

/-- The source ends before the first blank. Labels have no bar, so that all of them stand between
the two bars, and no angle bracket, so that each ends before a break. -/
theorem edge_inj
    {source dest other otherDest : String}
    {labels otherLabels : List String}
    (legible : (edge source dest labels).Legible)
    (otherLegible : (edge other otherDest otherLabels).Legible)
    (same : (edge source dest labels).text = (edge other otherDest otherLabels).text) :
    source = other ∧ dest = otherDest ∧ labels = otherLabels := by
  obtain ⟨isKey, isDest, inhabited, safe⟩ := legible
  obtain ⟨isOther, isOtherDest, otherInhabited, otherSafe⟩ := otherLegible
  have clear {labels : List String} (safe : ∀ label ∈ labels, Safe label) {mark : Char}
      (isDelimiter : mark ∈ delimiters) :
      ∀ text ∈ labels.map String.toList, mark ∉ text := by
    simpa using fun label member => safe label member mark isDelimiter
  have barless {labels : List String} (safe : ∀ label ∈ labels, Safe label) :
      '|' ∉ ['<', 'b', 'r', '/', '>'].intercalate (labels.map String.toList) :=
    not_mem_intercalate (by decide) (clear safe (by decide))
  have parted := congrArg String.toList same
  rw [toList_edge, toList_edge, List.append_right_inj] at parted
  obtain ⟨sameSource, sameBack⟩ := append_cons_inj_of_first
    (not_mem_identifier isKey (by decide) (by decide) (by decide))
    (not_mem_identifier isOther (by decide) (by decide) (by decide)) parted
  obtain ⟨sameJoined, sameEnd⟩ := append_cons_inj_of_first (barless safe) (barless otherSafe)
    (List.append_cancel_left sameBack)
  have sameTexts := intercalate_cons_inj (by simpa using inhabited) (by simpa using otherInhabited)
    (clear safe (by decide)) (clear otherSafe (by decide)) sameJoined
  exact ⟨identifier_key_inj isKey isOther (String.toList_injective sameSource),
    identifier_key_inj isDest isOtherDest (String.toList_injective (List.cons.inj sameEnd).2),
    List.map_injective_iff.mpr (fun _ _ => String.toList_injective) sameTexts⟩

/-- The identifier ends before the first blank. -/
theorem nodeStyle_inj
    {key other color otherColor : String}
    (legible : (nodeStyle key color).Legible)
    (otherLegible : (nodeStyle other otherColor).Legible)
    (same : (nodeStyle key color).text = (nodeStyle other otherColor).text) :
    key = other ∧ color = otherColor := by
  have blankless {key : String} (isKey : IsKey key) : ' ' ∉ (identifier key).toList :=
    not_mem_identifier isKey (by decide) (by decide) (by decide)
  have parted := congrArg String.toList same
  rw [toList_nodeStyle, toList_nodeStyle, List.append_right_inj] at parted
  obtain ⟨sameIdentifier, sameBack⟩ :=
    append_cons_inj_of_first (blankless legible.1) (blankless otherLegible.1) parted
  have sameColor := List.append_cancel_right (List.append_cancel_left sameBack)
  exact ⟨identifier_key_inj legible.1 otherLegible.1 (String.toList_injective sameIdentifier),
    String.toList_injective sameColor⟩

/-- The number ends before the first blank. -/
theorem edgeStyle_inj
    {number other : Nat}
    {color otherColor : String}
    (same : (edgeStyle number color).text = (edgeStyle other otherColor).text) :
    number = other ∧ color = otherColor := by
  have parted := congrArg String.toList same
  rw [toList_edgeStyle, toList_edgeStyle, List.append_right_inj] at parted
  obtain ⟨sameDigits, sameBack⟩ :=
    append_cons_inj_of_first (Numeric.not_mem_toDigits number (by decide))
      (Numeric.not_mem_toDigits other (by decide)) parted
  have sameNumber := congrArg (Nat.ofDigitChars 10 · 0) sameDigits
  simp only [Nat.ofDigitChars_ten_toDigits] at sameNumber
  exact ⟨sameNumber, String.toList_injective (List.append_cancel_left sameBack)⟩

/-- A line is read back from its text. -/
theorem text_inj
    {line other : DrawingLine}
    (legible : line.Legible)
    (otherLegible : other.Legible)
    (same : line.text = other.text) :
    line = other := by
  have sameKind : line.kind = other.kind := by
    rw [← ofWord_secondWord_text legible, same, ofWord_secondWord_text otherLegible]
  cases line with
  | heading direction =>
      cases other with
      | heading otherDirection => rw [heading_inj same]
      | _ => cases sameKind
  | opening zone label =>
      cases other with
      | opening otherZone otherLabel =>
          obtain ⟨rfl, rfl⟩ := opening_inj legible otherLegible same
          rfl
      | _ => cases sameKind
  | node key label shape =>
      cases other with
      | node otherKey otherLabel otherShape =>
          obtain ⟨rfl, rfl, rfl⟩ := node_inj legible otherLegible same
          rfl
      | _ => cases sameKind
  | closing =>
      cases other with
      | closing => rfl
      | _ => cases sameKind
  | edge source dest labels =>
      cases other with
      | edge otherSource otherDest otherLabels =>
          obtain ⟨rfl, rfl, rfl⟩ := edge_inj legible otherLegible same
          rfl
      | _ => cases sameKind
  | nodeStyle key color =>
      cases other with
      | nodeStyle otherKey otherColor =>
          obtain ⟨rfl, rfl⟩ := nodeStyle_inj legible otherLegible same
          rfl
      | _ => cases sameKind
  | edgeStyle number color =>
      cases other with
      | edgeStyle otherNumber otherColor =>
          obtain ⟨rfl, rfl⟩ := edgeStyle_inj same
          rfl
      | _ => cases sameKind

/-- No line is broken, whatever it holds. -/
theorem oneLine_text
    {line : DrawingLine}
    (legible : line.Legible) :
    OneLine line.text := by
  have ofKey {key : String} (isKey : IsKey key) : '\n' ∉ (identifier key).toList :=
    not_mem_identifier isKey (by decide) (by decide) (by decide)
  have ofLabel {label : String} (safe : Safe label) : '\n' ∉ label.toList :=
    safe '\n' (by decide)
  unfold OneLine
  cases line with
  | heading direction => cases direction <;> decide
  | opening zone label =>
      obtain ⟨zoneNormal, safe⟩ := legible
      rw [toList_opening, identifier_cluster zoneNormal]
      simp [ofKey (isKey_namesakeKey zoneNormal), ofLabel safe]
  | node key label shape =>
      obtain ⟨isKey, safe, isShape⟩ := legible
      rw [toList_node]
      rcases isShape with rfl | rfl <;> simp [ofKey isKey, ofLabel safe, brackets]
  | closing => decide
  | edge source dest labels =>
      obtain ⟨isKey, isDest, _, safe⟩ := legible
      have joined : '\n' ∉ ['<', 'b', 'r', '/', '>'].intercalate (labels.map String.toList) := by
        refine not_mem_intercalate (by decide) ?_
        simpa using fun label member => ofLabel (safe label member)
      rw [toList_edge]
      simp [ofKey isKey, ofKey isDest, joined]
  | nodeStyle key color =>
      obtain ⟨isKey, colorOneLine⟩ := legible
      have colorClear : '\n' ∉ color.toList := colorOneLine
      rw [toList_nodeStyle]
      simp [ofKey isKey, colorClear]
  | edgeStyle number color =>
      have colorClear : '\n' ∉ color.toList := legible
      have digits : '\n' ∉ Nat.toDigits 10 number := Numeric.not_mem_toDigits number (by decide)
      rw [toList_edgeStyle]
      simp [digits, colorClear]

end DrawingLine

end ThreatModel.Diagram.Mermaid
