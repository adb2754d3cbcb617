import Mathlib.Data.List.Basic
import ThreatModel.CallGraph.Basic
import ThreatModel.Proofs.Entry.Printer
import ThreatModel.Proofs.Text.Marks

/-!
Contract: the writing of calls as edge lines, from which they can be read again.

Owns:
- numbers in decimal digits, and their reading;
- the site of a call between tag and callee, which no tag can be mistaken for;
- the line of a call under any tag, and that it is read as this call.

Does not own: the order of lines, and the graph that they make.
-/

namespace ThreatModel

open ThreatModel.Entry ThreatModel.Text

/-! ## Decimal numbers -/

namespace Text

/-- A row of one decimal digit or more. -/
structure IsRow (digits : List Char) : Prop where
  inhabited : digits ≠ []
  decimal : ∀ digit ∈ digits, isDecimalDigit digit = true

theorem isRow_iff {digits : List Char} :
    digits ≠ [] ∧ digits.all isDecimalDigit = true ↔ IsRow digits := by
  rw [List.all_eq_true]
  exact ⟨fun ⟨inhabited, decimal⟩ => ⟨inhabited, decimal⟩,
    fun isRow => ⟨isRow.inhabited, isRow.decimal⟩⟩

instance (digits : List Char) : Decidable (IsRow digits) :=
  decidable_of_iff _ isRow_iff

theorem IsRow.not_mem
    {digits : List Char}
    (isRow : IsRow digits)
    {mark : Char}
    (noDigit : isDecimalDigit mark = false) :
    mark ∉ digits := by
  intro member
  rw [isRow.decimal mark member] at noDigit
  cases noDigit

/-- The digits from zero to nine are the first row of all digits. -/
theorem digitValue?_of_isDigit
    {character : Char}
    (isDigit : character.isDigit = true) :
    digitValue? character = some (character.toNat - '0'.toNat) := by
  rw [Char.isDigit, Bool.and_eq_true, decide_eq_true_iff, decide_eq_true_iff] at isDigit
  have atLeast : 0x30 ≤ character.toNat := isDigit.1
  have atMost : character.toNat ≤ 0x39 := isDigit.2
  have inFirst : (0x30 ≤ character.toNat && character.toNat ≤ 0x30 + 9) = true := by
    simp [atLeast, atMost]
  have isFirst : decimalZeros.find? (fun first =>
      first ≤ character.toNat && character.toNat ≤ first + 9) = some 0x30 :=
    List.find?_cons_of_pos inFirst
  rw [digitValue?, isFirst]
  rfl

theorem isRow_toDigits (number : Nat) : IsRow (Nat.toDigits 10 number) where
  inhabited := Nat.toDigits_ne_nil
  decimal digit member := by
    have isDigit := Nat.isDigit_of_mem_toDigits (by decide) (Nat.le_refl 10) member
    rw [isDecimalDigit, digitValue?_of_isDigit isDigit]
    rfl

/-- A number is read off its digits. -/
theorem decimalValue_toDigits (number : Nat) :
    decimalValue (Nat.toDigits 10 number) = number := by
  have sameStep : ∀ value, ∀ digit ∈ Nat.toDigits 10 number,
      10 * value + (digitValue? digit).getD 0 = 10 * value + (digit.toNat - '0'.toNat) := by
    intro value digit member
    have isDigit := Nat.isDigit_of_mem_toDigits (by decide) (Nat.le_refl 10) member
    rw [digitValue?_of_isDigit isDigit, Option.getD_some]
  calc
    decimalValue (Nat.toDigits 10 number)
        = Nat.ofDigitChars 10 (Nat.toDigits 10 number) 0 :=
          List.foldl_ext _ _ 0 sameStep
    _ = number := Nat.ofDigitChars_ten_toDigits

end Text

namespace CallGraph

/-! ## Digits in front of a rest -/

theorem digits?_append
    {digits rest : List Char}
    (isRow : IsRow digits)
    (ends : startsWithDigit rest = false) :
    digits? (digits ++ rest) = some (digits, rest) := by
  have nothing : rest.takeWhile isDecimalDigit = [] ∧ rest.dropWhile isDecimalDigit = rest := by
    cases rest with
    | nil => exact ⟨rfl, rfl⟩
    | cons head tail =>
        have noDigit : isDecimalDigit head = false := ends
        simp [noDigit]
  rw [digits?, List.takeWhile_append_of_pos isRow.decimal, nothing.1, List.append_nil,
    List.dropWhile_append_of_pos isRow.decimal, nothing.2]
  cases digits with
  | nil => exact absurd rfl isRow.inhabited
  | cons head tail => rfl

theorem isRow_of_digits?
    {text digits rest : List Char}
    (reads : digits? text = some (digits, rest)) :
    IsRow digits ∧ text = digits ++ rest := by
  rw [digits?] at reads
  cases taken : text.takeWhile isDecimalDigit with
  | nil =>
      rw [taken] at reads
      cases reads
  | cons head tail =>
      rw [taken] at reads
      obtain ⟨rfl, rfl⟩ := Prod.mk.inj (Option.some.inj reads)
      refine ⟨⟨List.cons_ne_nil head tail, ?_⟩, ?_⟩
      · rw [← taken]
        exact List.all_eq_true.mp List.all_takeWhile
      · rw [← taken, List.takeWhile_append_dropWhile]

/-! ## The site of a call -/

/-- The site as it stands between tag and callee. -/
def siteText (lineDigits columnDigits : List Char) : List Char :=
  '-' :: (lineDigits ++ ':' :: (columnDigits ++ ['-', '-', '>']))

/-- The reader of what may follow the callee. -/
def blankEnd? (rest : List Char) : Option Unit :=
  if allBlank rest then some () else none

theorem blankEnd?_eq_some_iff {rest : List Char} :
    blankEnd? rest = some () ↔ allBlank rest = true := by
  rw [blankEnd?, Option.ite_none_right_eq_some, and_iff_left rfl]

theorem siteAndCallee?_eq_some_iff {text lineDigits columnDigits callee : List Char} :
    siteAndCallee? text = some (lineDigits, columnDigits, callee) ↔
      IsRow lineDigits ∧ IsRow columnDigits ∧
        ∃ rest, text = siteText lineDigits columnDigits ++ '\t' :: rest ∧
          shortestField blankEnd? rest = some (callee, ()) := by
  constructor
  · intro reads
    simp only [siteAndCallee?, Option.bind_eq_bind, Option.bind_eq_some_iff, Option.pure_def,
      Option.some.injEq, Prod.mk.injEq, Prod.exists] at reads
    obtain ⟨afterTag, tagged, line, afterLine, lineRead, beforeColumn, parted, column, afterColumn,
      columnRead, beforeCallee, arrow, _, _, calleeRead, rfl, rfl, rfl⟩ := reads
    obtain ⟨isLine, rfl⟩ := isRow_of_digits? lineRead
    obtain ⟨isColumn, rfl⟩ := isRow_of_digits? columnRead
    rw [after?_eq_some_iff] at tagged parted arrow
    refine ⟨isLine, isColumn, beforeCallee, ?_, calleeRead⟩
    rw [tagged, parted, arrow]
    simp [siteText]
  · rintro ⟨isLine, isColumn, rest, rfl, calleeRead⟩
    have columnRead : digits? (columnDigits ++ '-' :: '-' :: '>' :: '\t' :: rest) =
        some (columnDigits, '-' :: '-' :: '>' :: '\t' :: rest) :=
      digits?_append isColumn rfl
    have lineRead :
        digits? (lineDigits ++ ':' :: (columnDigits ++ '-' :: '-' :: '>' :: '\t' :: rest)) =
          some (lineDigits, ':' :: (columnDigits ++ '-' :: '-' :: '>' :: '\t' :: rest)) :=
      digits?_append isLine rfl
    unfold blankEnd? at calleeRead
    simp only [siteAndCallee?, siteText, List.cons_append, List.append_assoc, List.nil_append,
      after?, if_true, lineRead, columnRead, calleeRead, Option.bind_eq_bind, Option.bind_some,
      Option.pure_def]

theorem siteAndCallee?_append
    {lineDigits columnDigits callee : List Char}
    (isLine : IsRow lineDigits)
    (isColumn : IsRow columnDigits)
    (isField : IsField callee)
    (endsInked : EndsInked callee) :
    siteAndCallee? (siteText lineDigits columnDigits ++ '\t' :: callee) =
      some (lineDigits, columnDigits, callee) := by
  refine siteAndCallee?_eq_some_iff.mpr ⟨isLine, isColumn, callee, rfl, ?_⟩
  rw [shortestField_eq_some_iff]
  refine ⟨isField.inhabited, ⟨isField.sameLine, [], by simp, rfl⟩, ?_⟩
  rintro other ⟨⟩ _ ⟨_, rest, parted, follows⟩
  have blank := blankEnd?_eq_some_iff.mp follows
  -- Blanks at the end of the callee can only be none.
  have nothing : rest = [] := by
    by_contra inhabited
    exact not_allBlank_of_endsInked (parted ▸ endsInked) inhabited blank
  rw [parted, nothing, List.append_nil]

/-- Where a tag is free of tabs, it ends at the site that the tab follows. Digits are neither dashes
nor colons, so that a tag that looks like a site itself is no matter. -/
theorem tag_unique
    {tag other lineDigits columnDigits otherLine otherColumn rest otherRest : List Char}
    (tabless : '\t' ∉ tag)
    (otherTabless : '\t' ∉ other)
    (isLine : IsRow lineDigits)
    (isColumn : IsRow columnDigits)
    (isOtherLine : IsRow otherLine)
    (isOtherColumn : IsRow otherColumn)
    (same : tag ++ (siteText lineDigits columnDigits ++ '\t' :: rest) =
      other ++ (siteText otherLine otherColumn ++ '\t' :: otherRest)) :
    tag = other := by
  have clear {front line column : List Char}
      (noTab : '\t' ∉ front)
      (isLine : IsRow line)
      (isColumn : IsRow column) :
      '\t' ∉ front ++ siteText line column := by
    have notInLine : '\t' ∉ line := isLine.not_mem (by decide)
    have notInColumn : '\t' ∉ column := isColumn.not_mem (by decide)
    simp [siteText, noTab, notInLine, notInColumn]
  rw [← List.append_assoc, ← List.append_assoc] at same
  -- From the front up to the first tab; from there backwards to the last colon, then the last dash.
  have upToTab := (append_cons_inj_of_first (clear tabless isLine isColumn)
    (clear otherTabless isOtherLine isOtherColumn) same).1
  have upToColumn : (tag ++ '-' :: lineDigits) ++ ':' :: columnDigits =
      (other ++ '-' :: otherLine) ++ ':' :: otherColumn := by
    have arrowed : ((tag ++ '-' :: lineDigits) ++ ':' :: columnDigits) ++ ['-', '-', '>'] =
        ((other ++ '-' :: otherLine) ++ ':' :: otherColumn) ++ ['-', '-', '>'] := by
      simpa [siteText] using upToTab
    exact List.append_cancel_right arrowed
  have upToLine := (append_cons_inj_of_last (isColumn.not_mem (by decide))
    (isOtherColumn.not_mem (by decide)) upToColumn).1
  exact (append_cons_inj_of_last (isLine.not_mem (by decide))
    (isOtherLine.not_mem (by decide)) upToLine).1

/-! ## Edge lines -/

theorem edgeLine?_append
    {caller tag lineDigits columnDigits callee : List Char}
    (isCaller : IsField caller)
    (callerTabless : '\t' ∉ caller)
    (isTag : IsField tag)
    (tagTabless : '\t' ∉ tag)
    (isLine : IsRow lineDigits)
    (isColumn : IsRow columnDigits)
    (isCallee : IsField callee)
    (endsInked : EndsInked callee) :
    edgeLine? (caller ++ '\t' :: '-' :: '-' ::
        (tag ++ (siteText lineDigits columnDigits ++ '\t' :: callee))) =
      some ⟨caller, callee, lineDigits, columnDigits⟩ := by
  have site := siteAndCallee?_append isLine isColumn isCallee endsInked
  have tagRead : shortestField siteAndCallee?
      (tag ++ (siteText lineDigits columnDigits ++ '\t' :: callee)) =
        some (tag, lineDigits, columnDigits, callee) := by
    rw [shortestField_eq_some_iff]
    refine ⟨isTag.inhabited, ⟨isTag.sameLine, _, rfl, site⟩, ?_⟩
    rintro other ⟨otherLine, otherColumn, _⟩ _ ⟨_, rest, parted, follows⟩
    -- A shorter tag would have no tab either, and there is but one such tag.
    by_contra shorter
    rw [Nat.not_le] at shorter
    obtain ⟨isOtherLine, isOtherColumn, otherCallee, rfl, _⟩ :=
      siteAndCallee?_eq_some_iff.mp follows
    have otherTabless := not_mem_of_shorter parted shorter tagTabless
    have sameTag := tag_unique tagTabless otherTabless isLine isColumn isOtherLine isOtherColumn
      parted
    exact Nat.ne_of_gt shorter (congrArg List.length sameTag)
  have callerRead : shortestField
      (fun rest => (after? ['\t', '-', '-'] rest).bind (shortestField siteAndCallee?))
      (caller ++ '\t' :: '-' :: '-' ::
        (tag ++ (siteText lineDigits columnDigits ++ '\t' :: callee))) =
        some (caller, tag, lineDigits, columnDigits, callee) := by
    rw [shortestField_eq_some_iff]
    refine ⟨isCaller.inhabited, ⟨isCaller.sameLine, _, rfl, ?_⟩, ?_⟩
    · simpa [after?] using tagRead
    · rintro other _ _ ⟨_, rest, parted, follows⟩
      by_contra shorter
      rw [Nat.not_le] at shorter
      obtain ⟨afterTab, tabbed, _⟩ := Option.bind_eq_some_iff.mp follows
      rw [after?_eq_some_iff] at tabbed
      rw [tabbed] at parted
      have otherTabless := not_mem_of_shorter parted shorter callerTabless
      have sameCaller := (append_cons_inj_of_first callerTabless otherTabless parted).1
      exact Nat.ne_of_gt shorter (congrArg List.length sameCaller)
  rw [edgeLine?, callerRead]
  rfl

/-- A printed line carries no line end that would be taken off before it is read. -/
theorem edgeLine?_dropLineEnd
    {caller tag lineDigits columnDigits callee : List Char}
    (isCaller : IsField caller)
    (callerTabless : '\t' ∉ caller)
    (isTag : IsField tag)
    (tagTabless : '\t' ∉ tag)
    (isLine : IsRow lineDigits)
    (isColumn : IsRow columnDigits)
    (isCallee : IsField callee)
    (endsInked : EndsInked callee) :
    edgeLine? (dropLineEnd (caller ++ '\t' :: '-' :: '-' ::
        (tag ++ (siteText lineDigits columnDigits ++ '\t' :: callee)))) =
      some ⟨caller, callee, lineDigits, columnDigits⟩ := by
  have inked : EndsInked (caller ++ '\t' :: '-' :: '-' ::
      (tag ++ (siteText lineDigits columnDigits ++ '\t' :: callee))) := by
    have parted : caller ++ '\t' :: '-' :: '-' ::
        (tag ++ (siteText lineDigits columnDigits ++ '\t' :: callee)) =
          (caller ++ '\t' :: '-' :: '-' ::
            (tag ++ (siteText lineDigits columnDigits ++ ['\t']))) ++ callee := by
      simp
    rw [parted]
    exact endsInked.append isCallee.inhabited _
  rw [dropLineEnd_of_endsInked inked]
  exact edgeLine?_append isCaller callerTabless isTag tagTabless isLine isColumn isCallee endsInked

/-! ## The line of a call -/

/-- The line of a call, under any tag. -/
def Edge.line
    (edge : Edge)
    (tag : String) :
    String :=
  edge.caller ++ "\t--" ++ tag ++ "-" ++ toString edge.site.line ++ ":" ++
    toString edge.site.column ++ "-->\t" ++ edge.callee

theorem Edge.toList_line
    (edge : Edge)
    (tag : String) :
    (edge.line tag).toList =
      edge.caller.toList ++ '\t' :: '-' :: '-' ::
        (tag.toList ++
          (siteText (Nat.toDigits 10 edge.site.line) (Nat.toDigits 10 edge.site.column) ++
            '\t' :: edge.callee.toList)) := by
  simp [Edge.line, siteText]

/-- The tag of a line has a character or more, and no tab and no newline. -/
structure LegibleTag (tag : String) : Prop where
  isField : IsField tag.toList
  tabless : '\t' ∉ tag.toList

instance (tag : String) : Decidable (LegibleTag tag) :=
  decidable_of_iff (IsField tag.toList ∧ '\t' ∉ tag.toList)
    ⟨fun ⟨isField, tabless⟩ => ⟨isField, tabless⟩, fun ⟨isField, tabless⟩ => ⟨isField, tabless⟩⟩

/-- What keeps the parts of the line of a call apart. Names have no numbered suffix, which would be
removed, and numbers have as many digits as are read. -/
structure Edge.Legible (edge : Edge) : Prop where
  caller : IsField edge.caller.toList
  caller_tabless : '\t' ∉ edge.caller.toList
  caller_stripped : stripSuffix edge.caller = edge.caller
  callee : IsField edge.callee.toList
  callee_endsInked : EndsInked edge.callee.toList
  callee_stripped : stripSuffix edge.callee = edge.callee
  line_digits : (toString edge.site.line).length ≤ digitLimit
  column_digits : (toString edge.site.column).length ≤ digitLimit

instance (edge : Edge) : Decidable edge.Legible :=
  decidable_of_iff
    (IsField edge.caller.toList ∧ '\t' ∉ edge.caller.toList ∧
      stripSuffix edge.caller = edge.caller ∧ IsField edge.callee.toList ∧
      EndsInked edge.callee.toList ∧ stripSuffix edge.callee = edge.callee ∧
      (toString edge.site.line).length ≤ digitLimit ∧
      (toString edge.site.column).length ≤ digitLimit)
    ⟨fun ⟨caller, tabless, callerStripped, callee, endsInked, calleeStripped, line, column⟩ =>
        ⟨caller, tabless, callerStripped, callee, endsInked, calleeStripped, line, column⟩,
      fun ⟨caller, tabless, callerStripped, callee, endsInked, calleeStripped, line, column⟩ =>
        ⟨caller, tabless, callerStripped, callee, endsInked, calleeStripped, line, column⟩⟩

theorem number?_toDigits
    {number : Nat}
    (short : (toString number).length ≤ digitLimit) :
    number? (Nat.toDigits 10 number) = .ok number := by
  rw [Nat.toString_eq_ofList_toDigits, String.length_ofList] at short
  rw [number?, if_neg (Nat.not_lt_of_le short), decimalValue_toDigits]

/-- The line of a call is read as this call, whatever its tag looks like. -/
theorem Edge.Legible.readLine
    {edge : Edge}
    (legible : edge.Legible)
    {tag : String}
    (legibleTag : LegibleTag tag) :
    CallGraph.readLine (edge.line tag) = .ok (some edge) := by
  have fields := edgeLine?_dropLineEnd legible.caller legible.caller_tabless legibleTag.isField
    legibleTag.tabless (isRow_toDigits edge.site.line) (isRow_toDigits edge.site.column)
    legible.callee legible.callee_endsInked
  rw [CallGraph.readLine, edge.toList_line, fields]
  simp only [EdgeLine.edge?, number?_toDigits legible.line_digits,
    number?_toDigits legible.column_digits, String.ofList_toList, legible.caller_stripped,
    legible.callee_stripped]
  rfl

end CallGraph

end ThreatModel
