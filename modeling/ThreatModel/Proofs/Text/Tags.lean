import ThreatModel.Proofs.Numeric.Marks
import ThreatModel.Proofs.Text.Lines
import ThreatModel.Proofs.Text.Markup

/-!
Contract: the tags of a text.

Owns:
- the pieces of a text from an opening angle bracket to the next closing one;
- that texts put together have the tags of each, where none leaves a bracket open;
- that escaped texts and numbers have no tags, and a line none that its text has not.

Does not own: any document.
-/

namespace ThreatModel.Text

/-! ## Tags -/

/-- The text up to the first closing bracket. -/
def closing? : List Char → Option (List Char)
  | [] => none
  | character :: rest =>
      if character = '>' then some ['>'] else (closing? rest).map (character :: ·)

/-- All pieces from an opening bracket to the next closing one. -/
def tags : List Char → List (List Char)
  | [] => []
  | character :: rest =>
      if character = '<' then ((closing? rest).map ('<' :: ·)).toList ++ tags rest
      else tags rest

def textTags (text : String) : List String :=
  (tags text.toList).map String.ofList

/-- No bracket is left open. -/
def Closed : List Char → Prop
  | [] => True
  | character :: rest => (character = '<' → (closing? rest).isSome) ∧ Closed rest

instance decidableClosed : (text : List Char) → Decidable (Closed text)
  | [] => inferInstanceAs (Decidable True)
  | _ :: rest =>
      have := decidableClosed rest
      inferInstanceAs (Decidable (_ ∧ _))

theorem closing?_append
    {front : List Char}
    (closes : (closing? front).isSome)
    (back : List Char) :
    closing? (front ++ back) = closing? front := by
  induction front with
  | nil => cases closes
  | cons head rest inductionHypothesis =>
      rw [List.cons_append, closing?, closing?]
      rw [closing?] at closes
      by_cases isClosing : head = '>'
      · rw [if_pos isClosing, if_pos isClosing]
      · rw [if_neg isClosing, Option.isSome_map] at closes
        rw [if_neg isClosing, if_neg isClosing, inductionHypothesis closes]

theorem tags_append
    {front : List Char}
    (closed : Closed front)
    (back : List Char) :
    tags (front ++ back) = tags front ++ tags back := by
  induction front with
  | nil => rfl
  | cons head rest inductionHypothesis =>
      obtain ⟨closes, restClosed⟩ := closed
      rw [List.cons_append, tags, tags, inductionHypothesis restClosed]
      by_cases isOpening : head = '<'
      · rw [if_pos isOpening, if_pos isOpening, closing?_append (closes isOpening),
          List.append_assoc]
      · rw [if_neg isOpening, if_neg isOpening]

theorem Closed.append
    {front back : List Char}
    (closed : Closed front)
    (backClosed : Closed back) :
    Closed (front ++ back) := by
  induction front with
  | nil => exact backClosed
  | cons head rest inductionHypothesis =>
      obtain ⟨closes, restClosed⟩ := closed
      refine ⟨fun isOpening => ?_, inductionHypothesis restClosed⟩
      change (closing? (rest ++ back)).isSome
      rw [closing?_append (closes isOpening)]
      exact closes isOpening

theorem closed_of_unopened
    {text : List Char}
    (unopened : '<' ∉ text) :
    Closed text := by
  induction text with
  | nil => trivial
  | cons head rest inductionHypothesis =>
      rw [List.mem_cons, not_or] at unopened
      exact ⟨fun isOpening => absurd isOpening.symm unopened.1, inductionHypothesis unopened.2⟩

theorem tags_of_unopened
    {text : List Char}
    (unopened : '<' ∉ text) :
    tags text = [] := by
  induction text with
  | nil => rfl
  | cons head rest inductionHypothesis =>
      rw [List.mem_cons, not_or] at unopened
      rw [tags, if_neg (Ne.symm unopened.1), inductionHypothesis unopened.2]

/-! ## Texts put together -/

theorem nil_intercalate
    {α : Type}
    (parts : List (List α)) :
    [].intercalate parts = parts.flatten := by
  induction parts with
  | nil => rfl
  | cons head rest inductionHypothesis =>
      cases rest with
      | nil => simp
      | cons next later =>
          rw [List.intercalate_cons_cons, List.append_nil, inductionHypothesis]
          rfl

/-- The text has these tags, and leaves no bracket open. -/
structure Tagged
    (text : String)
    (written : List String) :
    Prop where
  closed : Closed text.toList
  tags_eq : textTags text = written

instance (text : String) (written : List String) : Decidable (Tagged text written) :=
  decidable_of_iff (Closed text.toList ∧ textTags text = written)
    ⟨fun ⟨closed, same⟩ => ⟨closed, same⟩, fun tagged => ⟨tagged.closed, tagged.tags_eq⟩⟩

namespace Tagged

theorem append
    {front back : String}
    {frontTags backTags : List String}
    (ofFront : Tagged front frontTags)
    (ofBack : Tagged back backTags) :
    Tagged (front ++ back) (frontTags ++ backTags) := by
  constructor
  · rw [String.toList_append]
    exact ofFront.closed.append ofBack.closed
  · rw [textTags, String.toList_append, tags_append ofFront.closed, List.map_append,
      ← ofFront.tags_eq, ← ofBack.tags_eq]
    rfl

theorem of_unopened
    {text : String}
    (unopened : '<' ∉ text.toList) :
    Tagged text [] :=
  ⟨closed_of_unopened unopened, by rw [textTags, tags_of_unopened unopened, List.map_nil]⟩

theorem markup (text : String) : Tagged (markup text) [] :=
  of_unopened (not_mem_markup (by decide) text)

theorem nat (number : Nat) : Tagged (toString number) [] :=
  of_unopened (Numeric.not_mem_toString_nat number (by decide))

theorem int (number : Int) : Tagged (toString number) [] :=
  of_unopened (Numeric.not_mem_toString_int number (by decide) (by decide))

theorem value (value : Numeric.Binary64) : Tagged value.text [] :=
  of_unopened (Numeric.not_mem_text ⟨by decide, by decide⟩ value)

/-- A text without tags, between two others. -/
theorem around
    {front hole back : String}
    {frontTags backTags : List String}
    (ofFront : Tagged front frontTags)
    (ofHole : Tagged hole [])
    (ofBack : Tagged back backTags) :
    Tagged (front ++ hole ++ back) (frontTags ++ backTags) := by
  have whole := (ofFront.append ofHole).append ofBack
  rwa [List.append_nil] at whole

/-- The tags of the separator stand between those of the texts. -/
theorem intercalate
    {α : Type}
    {separator : String}
    {separatorTags : List String}
    (ofSeparator : Tagged separator separatorTags)
    {text : α → String}
    {written : α → List String}
    {list : List α}
    (each : ∀ element ∈ list, Tagged (text element) (written element)) :
    Tagged (separator.intercalate (list.map text)) (separatorTags.intercalate (list.map written)) := by
  induction list with
  | nil => exact of_unopened List.not_mem_nil
  | cons head rest inductionHypothesis =>
      have ofHead := each head List.mem_cons_self
      have ofRest := inductionHypothesis fun element member =>
        each element (List.mem_cons_of_mem head member)
      cases rest with
      | nil => simpa using ofHead
      | cons next later =>
          have joined : separator.intercalate ((head :: next :: later).map text) =
              text head ++ (separator ++ separator.intercalate ((next :: later).map text)) := by
            apply String.toList_injective
            simp [String.toList_intercalate]
          have joinedTags : separatorTags.intercalate ((head :: next :: later).map written) =
              written head ++
                (separatorTags ++ separatorTags.intercalate ((next :: later).map written)) := by
            simp [List.intercalate_cons_cons]
          rw [joined, joinedTags]
          exact ofHead.append (ofSeparator.append ofRest)

end Tagged

/-! ## Tags of a part -/

theorem tags_subset_append_left (front back : List Char) : tags front ⊆ tags (front ++ back) := by
  induction front with
  | nil => exact List.nil_subset _
  | cons head rest inductionHypothesis =>
      intro tag member
      rw [tags] at member
      rw [List.cons_append, tags]
      by_cases isOpening : head = '<'
      · rw [if_pos isOpening] at member ⊢
        rcases List.mem_append.mp member with here | later
        · refine List.mem_append_left _ ?_
          rw [Option.mem_toList, Option.map_eq_some_iff] at here ⊢
          obtain ⟨closed, closes, rfl⟩ := here
          exact ⟨closed, by rw [closing?_append (Option.isSome_of_eq_some closes), closes], rfl⟩
        · exact List.mem_append_right _ (inductionHypothesis later)
      · rw [if_neg isOpening] at member ⊢
        exact inductionHypothesis member

theorem tags_subset_append_right (front back : List Char) : tags back ⊆ tags (front ++ back) := by
  induction front with
  | nil => exact List.Subset.refl _
  | cons head rest inductionHypothesis =>
      rw [List.cons_append, tags]
      split
      · exact List.Subset.trans inductionHypothesis (List.subset_append_right _ _)
      · exact inductionHypothesis

/-- A line has no tag that its text has not. -/
theorem tags_subset_of_mem_lines
    {text line : List Char}
    (isLine : line ∈ lines text) :
    tags line ⊆ tags text := by
  by_cases broken : '\n' ∈ text
  · obtain ⟨front, back, rfl, unbroken⟩ := List.eq_append_cons_of_mem broken
    rw [lines_append_newline, lines_of_sameLine unbroken, List.singleton_append,
      List.mem_cons] at isLine
    rcases isLine with rfl | isLater
    · exact tags_subset_append_left line ('\n' :: back)
    · have later : tags back ⊆ tags ('\n' :: back) := tags_subset_append_right ['\n'] back
      have below : tags line ⊆ tags back := tags_subset_of_mem_lines isLater
      exact List.Subset.trans (List.Subset.trans below later)
        (tags_subset_append_right front ('\n' :: back))
  · rw [lines_of_sameLine broken, List.mem_singleton] at isLine
    rw [isLine]
    exact List.Subset.refl _
termination_by text.length
decreasing_by
  subst_vars
  simp only [List.length_append, List.length_cons]
  omega

theorem textTags_subset_of_mem_textLines
    {text line : String}
    (isLine : line ∈ textLines text) :
    textTags line ⊆ textTags text := by
  obtain ⟨characters, isPiece, rfl⟩ := List.mem_map.mp isLine
  rw [textTags, String.toList_ofList]
  exact List.map_subset String.ofList (tags_subset_of_mem_lines isPiece)

end ThreatModel.Text
