import Mathlib.Data.List.Infix
import ThreatModel.Proofs.Entry.Grammar
import ThreatModel.Proofs.Text.LineEnds

/-!
Contract: the writing of annotations, from which they can be read again.

Owns:
- the line of a layout: its fields with the separators between them, and its
  reference in parentheses;
- what keeps the fields of a line apart: no separator, no blank and no parenthesis
  where it could be taken for the end of a field;
- that a legible layout is the least fit of its own line.

Does not own: the records that are written, and the order of lines.
-/

namespace ThreatModel.Entry

open ThreatModel.Text

/-! ## Lines -/

/-- Fields with separators between them. -/
def joined : (separators fields : List (List Char)) → List Char
  | separator :: separators, field :: fields => field ++ (separator ++ joined separators fields)
  | _, fields => fields.flatten

theorem joined_single (field : List Char) : joined [] [field] = field :=
  List.append_nil field

theorem joined_cons
    (separator field : List Char)
    (separators fields : List (List Char)) :
    joined (separator :: separators) (field :: fields) =
      field ++ (separator ++ joined separators fields) :=
  rfl

/-- A reference as it stands behind the last field. -/
def referenceSuffix : Option (List Char) → List Char
  | none => []
  | some ref => ' ' :: '(' :: (ref ++ [')'])

/-- The comment line of a layout. -/
def Layout.line (layout : Layout) : List Char :=
  ['/', '/', ' '] ++
    (layout.shape.keyword.toList ++ [' '] ++
      (joined (layout.shape.separators.map String.toList) (layout.fields.map String.toList) ++
        referenceSuffix (layout.ref.map String.toList)))

/-! ## Legible fields -/

/-- The separator is not found in the field, nor at its end with the space after it. -/
def Clear (separator field : List Char) : Prop :=
  ¬separator <:+: field ++ [' ']

theorem clear_iff {separator field : List Char} :
    (∀ rest ∈ (field ++ [' ']).tails, ¬separator.isPrefixOf rest = true) ↔
      Clear separator field := by
  simp only [Clear, List.infix_iff_prefix_suffix, List.mem_tails, List.isPrefixOf_iff_prefix,
    not_exists, not_and']

instance (separator field : List Char) : Decidable (Clear separator field) :=
  decidable_of_iff _ clear_iff

/-- The text does not end in a blank. -/
def EndsInked (text : List Char) : Prop :=
  ∀ last, text.getLast? = some last → isBlank last = false

theorem endsInked_iff {text : List Char} :
    text.getLast?.any isBlank = false ↔ EndsInked text := by
  cases isLast : text.getLast? with
  | none => simp [EndsInked, isLast]
  | some last => simp [EndsInked, isLast]

instance (text : List Char) : Decidable (EndsInked text) :=
  decidable_of_iff _ endsInked_iff

/-- Fields that can be told apart when separators are put between them. -/
inductive Legible (ending : Ending) : (separators fields : List (List Char)) → Prop where
  | last {field : List Char}
      (isField : IsField field)
      (endsInked : EndsInked field)
      (unopened : ending = .reference → '(' ∉ field) :
      Legible ending [] [field]
  | next {separator field : List Char} {separators fields : List (List Char)}
      (isField : IsField field)
      (clear : Clear separator field)
      (legible : Legible ending separators fields) :
      Legible ending (separator :: separators) (field :: fields)

/-- A reference is free of newlines, and only some shapes have one. -/
def LegibleReference (ending : Ending) (ref : Option (List Char)) : Prop :=
  ∀ text, ref = some text → ending = .reference ∧ '\n' ∉ text

structure Layout.Legible (layout : Layout) : Prop where
  fields : Entry.Legible layout.shape.ending (layout.shape.separators.map String.toList)
    (layout.fields.map String.toList)
  reference : LegibleReference layout.shape.ending (layout.ref.map String.toList)

/-- A word with a space on either side. -/
def IsSeparator (separator : List Char) : Prop :=
  ∃ word, ' ' ∉ word ∧ separator = ' ' :: (word ++ [' '])

theorem isSeparator_of_mem_shapes :
    ∀ shape ∈ shapes, ∀ separator ∈ shape.separators.map String.toList, IsSeparator separator := by
  have trimmed : ∀ shape ∈ shapes, ∀ separator ∈ shape.separators.map String.toList,
      ' ' ∉ separator.tail.dropLast ∧ separator = ' ' :: (separator.tail.dropLast ++ [' ']) := by
    decide
  intro shape member separator isOne
  exact ⟨separator.tail.dropLast, trimmed shape member separator isOne⟩

/-! ## The first field -/

/-- A clear field ends at the first separator. The spaces at the ends of a separator are its only
ones, so another separator would have to begin in the field and to end with it at the latest. -/
theorem length_le_of_clear
    {separator field other rest otherRest : List Char}
    (isSeparator : IsSeparator separator)
    (clear : Clear separator field)
    (same : field ++ (separator ++ rest) = other ++ (separator ++ otherRest)) :
    field.length ≤ other.length := by
  obtain ⟨word, spaceless, rfl⟩ := isSeparator
  apply Nat.le_of_not_lt
  intro shorter
  obtain ⟨_, rfl, _⟩ | ⟨back, rfl, split⟩ := List.append_eq_append_iff.mp same
  · rw [List.length_append] at shorter
    omega
  cases back with
  | nil => simp at shorter
  | cons head tail =>
      simp only [List.cons_append, List.append_assoc, List.cons.injEq, List.nil_append] at split
      obtain ⟨rfl, split⟩ := split
      have within (behind : List Char) (found : tail ++ [' '] = word ++ ' ' :: behind) :
          ' ' :: (word ++ [' ']) <:+: other ++ ' ' :: tail ++ [' '] :=
        ⟨other, behind, by simp [found]⟩
      obtain ⟨between, rfl, later⟩ | ⟨between, rfl, later⟩ := List.append_eq_append_iff.mp split
      · cases between with
        | nil => exact clear (within [] (by simp))
        | cons next behind =>
            rw [List.cons_append, List.cons.injEq] at later
            obtain ⟨rfl, _⟩ := later
            exact clear (within (behind ++ [' ']) (by simp))
      · cases between with
        | nil => exact clear (within [] (by simp))
        | cons next behind =>
            rw [List.cons_append, List.cons.injEq] at later
            obtain ⟨rfl, _⟩ := later
            exact spaceless (by simp)

/-! ## The last field -/

theorem not_allBlank_of_endsInked
    {front back : List Char}
    (endsInked : EndsInked (front ++ back))
    (inhabited : back ≠ []) :
    ¬allBlank back = true := by
  intro blank
  obtain ⟨last, isLast⟩ := Option.ne_none_iff_exists'.mp
    (fun nothing => inhabited (List.getLast?_eq_none_iff.mp nothing))
  have lastOfAll : (front ++ back).getLast? = some last := by
    rw [List.getLast?_append, isLast, Option.some_or]
  have isBlankLast := allBlank_iff.mp blank last (List.mem_of_getLast? isLast)
  rw [endsInked last lastOfAll] at isBlankLast
  cases isBlankLast

/-- The last field ends at the last of its characters that is not blank, whatever follows it. -/
theorem length_le_of_endsInked
    {ending : Ending}
    {field other suffix tail : List Char}
    {ref : Option (List Char)}
    (endsInked : EndsInked field)
    (unopened : ending = .reference → '(' ∉ field)
    (same : field ++ suffix = other ++ tail)
    (follows : ending.Follows tail ref) :
    field.length ≤ other.length := by
  apply Nat.le_of_not_lt
  intro shorter
  obtain ⟨_, rfl, _⟩ | ⟨back, rfl, rfl⟩ := List.append_eq_append_iff.mp same
  · rw [List.length_append] at shorter
    omega
  have inhabited : back ≠ [] := by
    rintro rfl
    simp at shorter
  have inked := not_allBlank_of_endsInked endsInked inhabited
  generalize whole : back ++ suffix = tail at follows
  cases follows with
  | bare blank =>
      rw [← whole, allBlank_append, Bool.and_eq_true] at blank
      exact inked blank.1
  | @referenced before _ _ blankBefore =>
      -- Blanks up to the parenthesis, which is not in the field.
      obtain ⟨between, rfl, _⟩ | ⟨between, rfl, opened⟩ := List.append_eq_append_iff.mp whole
      · rw [allBlank_append, Bool.and_eq_true] at blankBefore
        exact inked blankBefore.1
      · cases between with
        | nil => exact inked (by rwa [List.append_nil])
        | cons head tail =>
            rw [List.cons_append, List.cons.injEq] at opened
            obtain ⟨rfl, _⟩ := opened
            exact unopened rfl (by simp)

/-! ## Reading a line again -/

theorem follows_referenceSuffix
    {ending : Ending}
    {ref : Option (List Char)}
    (legible : LegibleReference ending ref) :
    ending.Follows (referenceSuffix ref) ref := by
  cases ref with
  | none => exact .bare rfl
  | some text =>
      obtain ⟨rfl, sameLine⟩ := legible text rfl
      exact @Ending.Follows.referenced [' '] text [] rfl sameLine rfl

namespace Legible

variable {ending : Ending} {separators fields : List (List Char)} {ref : Option (List Char)}

theorem cut
    (legible : Legible ending separators fields)
    (legibleReference : LegibleReference ending ref) :
    Cut ending separators (joined separators fields ++ referenceSuffix ref) fields ref := by
  induction legible with
  | last isField =>
      rw [joined_single]
      exact .last isField (follows_referenceSuffix legibleReference)
  | next isField _ _ inductionHypothesis =>
      rw [joined_cons, List.append_assoc, List.append_assoc]
      exact .next isField inductionHypothesis

theorem least
    (legible : Legible ending separators fields)
    (areSeparators : ∀ separator ∈ separators, IsSeparator separator)
    (suffix : List Char)
    (others : List (List Char))
    (otherRef : Option (List Char))
    (cut : Cut ending separators (joined separators fields ++ suffix) others otherRef) :
    ¬Smaller others fields := by
  induction legible generalizing others with
  | last isField endsInked unopened =>
      rw [joined_single] at cut
      obtain ⟨other, tail, parted, rfl, _, follows⟩ := Cut.nil_iff.mp cut
      have longer := length_le_of_endsInked endsInked unopened parted follows
      rw [smaller_cons_iff, not_or]
      exact ⟨Nat.not_lt_of_le longer, fun later => not_smaller_nil [] later.2⟩
  | @next separator field separators fields isField clear _ inductionHypothesis =>
      rw [joined_cons, List.append_assoc, List.append_assoc] at cut
      obtain ⟨other, rest, laterFields, parted, rfl, _, later⟩ := Cut.cons_iff.mp cut
      have longer := length_le_of_clear (areSeparators separator (by simp)) clear parted
      rw [smaller_cons_iff, not_or]
      refine ⟨Nat.not_lt_of_le longer, fun ⟨sameLength, laterSmaller⟩ => ?_⟩
      obtain ⟨_, sameRest⟩ := List.append_inj parted sameLength.symm
      rw [← List.append_cancel_left sameRest] at later
      exact inductionHypothesis (fun one member => areSeparators one (by simp [member]))
        laterFields later laterSmaller

end Legible

/-- A legible layout is read from its own line. -/
theorem Layout.Legible.fitsLeast
    {layout : Layout}
    (member : layout.shape ∈ shapes)
    (legible : layout.Legible) :
    layout.FitsLeast layout.line := by
  have keyed := isKeyed_of_mem_shapes layout.shape member
  have comment : CommentOf layout.line (layout.shape.keyword.toList ++ [' '] ++
      (joined (layout.shape.separators.map String.toList) (layout.fields.map String.toList) ++
        referenceSuffix (layout.ref.map String.toList))) :=
    ⟨[], ['/', '/'], [' '], rfl, .inl rfl, rfl, rfl⟩
  refine ⟨⟨_, comment, legible.fields.cut legible.reference⟩, ?_⟩
  rintro others otherRef ⟨text, otherComment, cut⟩
  obtain rfl := Shape.text_unique keyed comment otherComment
  exact legible.fields.least (isSeparator_of_mem_shapes layout.shape member) _ others otherRef cut

/-! ## The end of a line -/

theorem endsInked_trim (text : List Char) : EndsInked (trim text) := by
  intro last isLast
  rw [trim, trimEnd, List.getLast?_reverse] at isLast
  obtain ⟨rest, left⟩ := List.head?_eq_some_iff.mp isLast
  exact not_blank_of_trimStart_eq_cons left

theorem EndsInked.append
    {back : List Char}
    (endsInked : EndsInked back)
    (inhabited : back ≠ [])
    (front : List Char) :
    EndsInked (front ++ back) := by
  intro last isLast
  rw [List.getLast?_append_of_ne_nil front inhabited] at isLast
  exact endsInked last isLast

/-- A line that ends in a character that is not blank carries no line end. -/
theorem dropLineEnd_of_endsInked
    {line : List Char}
    (endsInked : EndsInked line) :
    dropLineEnd line = line := by
  obtain rfl | ⟨front, last, rfl⟩ := List.eq_nil_or_concat' line
  · rfl
  · have stays : isLineEnd last = false := by
      have inked := endsInked last List.getLast?_concat
      by_contra isEnd
      rw [Bool.not_eq_false, isLineEnd, Bool.or_eq_true, decide_eq_true_iff,
        decide_eq_true_iff] at isEnd
      rcases isEnd with rfl | rfl
      · exact absurd inked (by decide)
      · exact absurd inked (by decide)
    rw [dropLineEnd_append_cons stays]
    rfl

namespace Legible

variable {ending : Ending} {separators fields : List (List Char)}

theorem endsInked_joined (legible : Legible ending separators fields) :
    joined separators fields ≠ [] ∧ EndsInked (joined separators fields) := by
  induction legible with
  | last isField endsInked =>
      rw [joined_single]
      exact ⟨isField.inhabited, endsInked⟩
  | next isField _ _ inductionHypothesis =>
      obtain ⟨inhabited, endsInked⟩ := inductionHypothesis
      rw [joined_cons, ← List.append_assoc]
      exact ⟨List.append_ne_nil_of_right_ne_nil _ inhabited, endsInked.append inhabited _⟩

theorem sameLine_joined
    (legible : Legible ending separators fields)
    (separatorsSameLine : ∀ separator ∈ separators, '\n' ∉ separator) :
    '\n' ∉ joined separators fields := by
  induction legible with
  | last isField =>
      rw [joined_single]
      exact isField.sameLine
  | next isField _ _ inductionHypothesis =>
      have later := inductionHypothesis fun one member => separatorsSameLine one (by simp [member])
      rw [joined_cons, List.mem_append, List.mem_append, not_or, not_or]
      exact ⟨isField.sameLine, separatorsSameLine _ (by simp), later⟩

end Legible

namespace Layout.Legible

variable {layout : Layout}

theorem endsInked_line (legible : layout.Legible) : EndsInked layout.line := by
  obtain ⟨inhabited, endsInked⟩ := legible.fields.endsInked_joined
  unfold line
  rw [← List.append_assoc]
  cases layout.ref with
  | none =>
      simp only [Option.map_none, referenceSuffix, List.append_nil]
      exact endsInked.append inhabited _
  | some ref =>
      have closed : EndsInked [')'] := by
        intro last isLast
        obtain rfl : ')' = last := by simpa using isLast
        decide
      have parted (front : List Char) :
          front ++ referenceSuffix (some ref.toList) =
            (front ++ ' ' :: '(' :: ref.toList) ++ [')'] := by
        simp [referenceSuffix]
      rw [Option.map_some, ← List.append_assoc, parted]
      exact closed.append (by simp) _

theorem sameLine_line
    (member : layout.shape ∈ shapes)
    (legible : layout.Legible) :
    '\n' ∉ layout.line := by
  have wordsSameLine : ∀ shape ∈ shapes,
      '\n' ∉ shape.keyword.toList ∧
        ∀ separator ∈ shape.separators.map String.toList, '\n' ∉ separator := by
    decide
  obtain ⟨keywordSameLine, separatorsSameLine⟩ := wordsSameLine layout.shape member
  have fieldsSameLine := legible.fields.sameLine_joined separatorsSameLine
  have referenceSameLine : '\n' ∉ referenceSuffix (layout.ref.map String.toList) := by
    cases known : layout.ref with
    | none => simp [referenceSuffix]
    | some ref =>
        obtain ⟨_, sameLine⟩ := legible.reference ref.toList (by rw [known, Option.map_some])
        simpa [referenceSuffix] using sameLine
  simp only [line, List.mem_append, not_or]
  exact ⟨by decide, ⟨keywordSameLine, by decide⟩, fieldsSameLine, referenceSameLine⟩

end Layout.Legible

end ThreatModel.Entry
