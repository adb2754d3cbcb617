import ThreatModel.Entry.Shape
import ThreatModel.Proofs.Text.Pattern

/-!
Contract: the lines that fit a shape, and the choice among the ways in which a line fits.

Owns:
- what may follow the last field, and the cuts of a text into fields;
- the fits of a comment line, and the one with the shortest fields, leftmost first;
- the agreement of the reader of a shape with this choice.

Does not own: the shapes of the annotations, or signature lines.
-/

namespace ThreatModel.Entry

open ThreatModel.Text

/-! ## Cuts of a text -/

/-- What may follow the last field, with the reference in it. -/
inductive Ending.Follows : Ending → List Char → Option (List Char) → Prop where
  | bare {ending : Ending} {blanks : List Char}
      (blank : allBlank blanks = true) :
      Follows ending blanks none
  | referenced {before ref after : List Char}
      (blankBefore : allBlank before = true)
      (sameLine : '\n' ∉ ref)
      (blankAfter : allBlank after = true) :
      Follows .reference (before ++ '(' :: (ref ++ ')' :: after)) (some ref)

/-- A field has a character or more, and no newline. -/
structure IsField (field : List Char) : Prop where
  inhabited : field ≠ []
  sameLine : '\n' ∉ field

instance (field : List Char) : Decidable (IsField field) :=
  decidable_of_iff (field ≠ [] ∧ '\n' ∉ field)
    ⟨fun ⟨inhabited, sameLine⟩ => ⟨inhabited, sameLine⟩,
      fun isField => ⟨isField.inhabited, isField.sameLine⟩⟩

/-- A text cut into one field more than there are separators, each separator standing between two
fields, and into what follows the last field. -/
inductive Cut (ending : Ending) :
    (separators : List (List Char)) → (text : List Char) → (fields : List (List Char)) →
    (ref : Option (List Char)) → Prop where
  | last {field tail : List Char} {ref : Option (List Char)}
      (isField : IsField field)
      (follows : ending.Follows tail ref) :
      Cut ending [] (field ++ tail) [field] ref
  | next {separator field rest : List Char} {separators fields : List (List Char)}
      {ref : Option (List Char)}
      (isField : IsField field)
      (cut : Cut ending separators rest fields ref) :
      Cut ending (separator :: separators) (field ++ (separator ++ rest)) (field :: fields) ref

/-- `body` is what a line has behind the marker of a comment and the blanks around it, or behind
some of the blanks after it. -/
def CommentOf (line body : List Char) : Prop :=
  ∃ before marker after,
    allBlank before = true ∧ (marker = ['/', '/'] ∨ marker = ['#']) ∧ allBlank after = true ∧
      line = before ++ (marker ++ (after ++ body))

/-- The lengths of fields, of which the leftmost that differs decides. -/
def Smaller (left right : List (List Char)) : Prop :=
  List.Lex (· < ·) (left.map List.length) (right.map List.length)

namespace Shape

/-- The line is a comment of the shape, with these fields and this reference. -/
def Fits
    (shape : Shape)
    (line : List Char)
    (fields : List (List Char))
    (ref : Option (List Char)) :
    Prop :=
  ∃ text,
    CommentOf line (shape.keyword.toList ++ [' '] ++ text) ∧
      Cut shape.ending (shape.separators.map String.toList) text fields ref

/-- Of the fits of a line, the one with the shortest fields, the leftmost first. -/
structure FitsLeast
    (shape : Shape)
    (line : List Char)
    (fields : List (List Char))
    (ref : Option (List Char)) :
    Prop where
  fits : shape.Fits line fields ref
  least : ∀ others otherRef, shape.Fits line others otherRef → ¬Smaller others fields

end Shape

/-! ## What follows the last field -/

theorem closedReference?_eq_some_iff {text ref : List Char} :
    closedReference? text = some ref ↔
      '\n' ∉ ref ∧ ∃ after, allBlank after = true ∧ text = ref ++ ')' :: after := by
  have closes (rest : List Char) :
      ((after? [')'] rest).bind fun tail => if allBlank tail then some () else none) = some () ↔
        ∃ after, allBlank after = true ∧ rest = ')' :: after := by
    simp only [Option.bind_eq_some_iff, after?_eq_some_iff, Option.ite_none_right_eq_some]
    constructor
    · rintro ⟨tail, rfl, blank, _⟩
      exact ⟨tail, blank, rfl⟩
    · rintro ⟨after, blank, rfl⟩
      exact ⟨after, rfl, blank, trivial⟩
  unfold closedReference?
  constructor
  · intro reads
    obtain ⟨⟨_, ⟨⟩⟩, chosen, rfl⟩ := Option.map_eq_some_iff.mp reads
    obtain ⟨⟨sameLine, rest, parted, ends⟩, _⟩ := shortest_sound chosen
    obtain ⟨after, blank, rfl⟩ := (closes rest).mp ends
    exact ⟨sameLine, after, blank, parted⟩
  · rintro ⟨sameLine, after, blank, parted⟩
    have reading : Reaches
        (fun rest => (after? [')'] rest).bind fun tail => if allBlank tail then some () else none)
        text ref () :=
      ⟨sameLine, ')' :: after, parted, (closes _).mpr ⟨after, blank, rfl⟩⟩
    rw [Option.map_eq_some_iff]
    refine ⟨(ref, ()), shortest_eq_some_iff.mpr ⟨reading, ?_⟩, rfl⟩
    -- The parenthesis is the last character that is not blank, so there is no other reading.
    rintro other ⟨⟩ ⟨_, rest, otherParted, otherEnds⟩
    obtain ⟨otherAfter, otherBlank, rfl⟩ := (closes rest).mp otherEnds
    have same := append_cons_inj_of_allBlank (by decide) (by decide) blank otherBlank
      (parted.symm.trans otherParted)
    exact Nat.le_of_eq (congrArg List.length same.1)

theorem Ending.read?_eq_some_iff
    {ending : Ending}
    {tail : List Char}
    {ref : Option (List Char)} :
    ending.read? tail = some ref ↔ ending.Follows tail ref := by
  cases ending with
  | blank =>
      rw [read?, Option.ite_none_right_eq_some, Option.some.injEq]
      constructor
      · rintro ⟨blank, rfl⟩
        exact .bare blank
      · rintro ⟨blank⟩
        exact ⟨blank, rfl⟩
  | reference =>
      constructor
      · intro reads
        obtain ⟨before, blankBefore, parted⟩ := exists_blanks_append_trimStart tail
        rw [read?] at reads
        split at reads
        · rename_i nothing
          cases reads
          exact .bare (trimStart_eq_nil_iff.mp nothing)
        · rename_i inner opened
          obtain ⟨text, closed, rfl⟩ := Option.map_eq_some_iff.mp reads
          obtain ⟨sameLine, after, blankAfter, rfl⟩ := closedReference?_eq_some_iff.mp closed
          rw [opened] at parted
          rw [parted]
          exact .referenced blankBefore sameLine blankAfter
        · cases reads
      · intro follows
        cases follows with
        | bare blank => rw [read?, trimStart_eq_nil_iff.mpr blank]
        | @referenced before text after blankBefore sameLine blankAfter =>
            have opened :
                trimStart (before ++ '(' :: (text ++ ')' :: after)) =
                  '(' :: (text ++ ')' :: after) := by
              rw [trimStart_eq_cons_iff (by decide)]
              exact ⟨before, blankBefore, rfl⟩
            have closed := closedReference?_eq_some_iff.mpr ⟨sameLine, after, blankAfter, rfl⟩
            rw [read?, opened]
            simp only [closed, Option.map_some]

/-- What follows a field tells whether there is a reference, and which. -/
theorem Ending.Follows.unique
    {ending : Ending}
    {tail : List Char}
    {ref other : Option (List Char)}
    (follows : ending.Follows tail ref)
    (otherFollows : ending.Follows tail other) :
    ref = other := by
  have reads := Ending.read?_eq_some_iff.mpr follows
  rw [Ending.read?_eq_some_iff.mpr otherFollows] at reads
  exact (Option.some.inj reads).symm

/-! ## The choice of a cut -/

/-- The first field decides unless the two first fields have one length. -/
theorem smaller_cons_iff
    {field other : List Char}
    {fields others : List (List Char)} :
    Smaller (other :: others) (field :: fields) ↔
      other.length < field.length ∨ other.length = field.length ∧ Smaller others fields := by
  rw [Smaller, List.map_cons, List.map_cons, List.cons_lex_cons_iff]
  rfl

theorem not_smaller_nil (fields : List (List Char)) : ¬Smaller fields [] := by
  intro smaller
  cases fields <;> cases smaller

/-- Where neither of two lists of fields is smaller, the first fields have one length, and neither
of the rests is smaller. -/
theorem length_eq_of_not_smaller
    {field other : List Char}
    {fields others : List (List Char)}
    (notLarger : ¬Smaller (other :: others) (field :: fields))
    (notSmaller : ¬Smaller (field :: fields) (other :: others)) :
    field.length = other.length ∧ ¬Smaller others fields ∧ ¬Smaller fields others := by
  rw [smaller_cons_iff, not_or, Nat.not_lt] at notLarger notSmaller
  have sameLength := Nat.le_antisymm notLarger.1 notSmaller.1
  exact ⟨sameLength, fun smaller => notLarger.2 ⟨sameLength.symm, smaller⟩,
    fun smaller => notSmaller.2 ⟨sameLength, smaller⟩⟩

namespace Cut

variable {ending : Ending} {separators : List (List Char)} {text : List Char}

theorem nil_iff
    {fields : List (List Char)}
    {ref : Option (List Char)} :
    Cut ending [] text fields ref ↔
      ∃ field tail,
        text = field ++ tail ∧ fields = [field] ∧ IsField field ∧ ending.Follows tail ref := by
  constructor
  · rintro ⟨isField, follows⟩
    exact ⟨_, _, rfl, rfl, isField, follows⟩
  · rintro ⟨field, tail, rfl, rfl, isField, follows⟩
    exact .last isField follows

theorem cons_iff
    {separator : List Char}
    {fields : List (List Char)}
    {ref : Option (List Char)} :
    Cut ending (separator :: separators) text fields ref ↔
      ∃ field rest others,
        text = field ++ (separator ++ rest) ∧ fields = field :: others ∧ IsField field ∧
          Cut ending separators rest others ref := by
  constructor
  · rintro ⟨⟩
    rename_i isField cut
    exact ⟨_, _, _, rfl, rfl, isField, cut⟩
  · rintro ⟨field, rest, others, rfl, rfl, isField, cut⟩
    exact .next isField cut

theorem length_fields
    {fields : List (List Char)}
    {ref : Option (List Char)}
    (cut : Cut ending separators text fields ref) :
    fields.length = separators.length + 1 := by
  induction cut with
  | last => rfl
  | next _ _ inductionHypothesis => simp [inductionHypothesis]

/-- Where only blanks may follow the last field, there is no reference. -/
theorem ref_eq_none
    {fields : List (List Char)}
    {ref : Option (List Char)}
    (cut : Cut .blank separators text fields ref) :
    ref = none := by
  induction separators generalizing text fields with
  | nil =>
      obtain ⟨_, _, _, _, _, follows⟩ := nil_iff.mp cut
      cases follows
      rfl
  | cons separator separators inductionHypothesis =>
      obtain ⟨_, _, _, _, _, _, later⟩ := cons_iff.mp cut
      exact inductionHypothesis later

/-- The first field of a cut is a reading of it when the rest is read. -/
theorem reaches_next
    {separator field rest : List Char}
    {found : List (List Char) × Option (List Char)}
    (isField : IsField field)
    (reads : fields? ending separators rest = some found) :
    Reaches (fun rest => (after? separator rest).bind (fields? ending separators))
      (field ++ (separator ++ rest)) field found := by
  refine ⟨isField.sameLine, separator ++ rest, rfl, ?_⟩
  have begun : after? separator (separator ++ rest) = some rest := after?_eq_some_iff.mpr rfl
  simp only [begun, Option.bind_some, reads]

/-- Where there is a cut, one is found. -/
theorem complete
    {fields : List (List Char)}
    {ref : Option (List Char)}
    (cut : Cut ending separators text fields ref) :
    ∃ found, fields? ending separators text = some found := by
  induction cut with
  | @last field tail ref isField follows =>
      have reading : Reaches ending.read? (field ++ tail) field ref :=
        ⟨isField.sameLine, tail, rfl, Ending.read?_eq_some_iff.mpr follows⟩
      obtain ⟨found, chosen⟩ := shortestField_complete isField.inhabited reading
      exact ⟨_, by rw [fields?, chosen, Option.map_some]⟩
  | @next separator field rest separators fields ref isField _ inductionHypothesis =>
      obtain ⟨later, reads⟩ := inductionHypothesis
      obtain ⟨found, chosen⟩ :=
        shortestField_complete isField.inhabited (reaches_next isField reads)
      exact ⟨_, by rw [fields?, chosen, Option.map_some]⟩

end Cut

/-- What is found is a cut, and none has smaller fields. -/
theorem fields?_sound
    {ending : Ending}
    {separators : List (List Char)}
    {text : List Char}
    {fields : List (List Char)}
    {ref : Option (List Char)}
    (reads : fields? ending separators text = some (fields, ref)) :
    Cut ending separators text fields ref ∧
      ∀ others otherRef, Cut ending separators text others otherRef → ¬Smaller others fields := by
  induction separators generalizing text fields ref with
  | nil =>
      obtain ⟨⟨field, _⟩, chosen, pair⟩ := Option.map_eq_some_iff.mp reads
      cases pair
      obtain ⟨inhabited, ⟨sameLine, tail, parted, follows⟩, least⟩ :=
        shortestField_eq_some_iff.mp chosen
      constructor
      · rw [parted]
        exact .last ⟨inhabited, sameLine⟩ (Ending.read?_eq_some_iff.mp follows)
      · intro others otherRef cut smaller
        obtain ⟨other, otherTail, otherParted, rfl, isField, otherFollows⟩ := Cut.nil_iff.mp cut
        have longer := least other otherRef isField.inhabited
          ⟨isField.sameLine, otherTail, otherParted, Ending.read?_eq_some_iff.mpr otherFollows⟩
        rcases smaller_cons_iff.mp smaller with shorter | ⟨_, later⟩
        · exact absurd longer (Nat.not_le_of_lt shorter)
        · exact not_smaller_nil [] later
  | cons separator separators inductionHypothesis =>
      obtain ⟨⟨field, laterFields, laterRef⟩, chosen, pair⟩ := Option.map_eq_some_iff.mp reads
      cases pair
      obtain ⟨inhabited, ⟨sameLine, rest, parted, follows⟩, least⟩ :=
        shortestField_eq_some_iff.mp chosen
      obtain ⟨tail, begun, laterReads⟩ := Option.bind_eq_some_iff.mp follows
      obtain rfl := after?_eq_some_iff.mp begun
      obtain ⟨cut, leastLater⟩ := inductionHypothesis laterReads
      constructor
      · rw [parted]
        exact .next ⟨inhabited, sameLine⟩ cut
      · intro others otherRef otherCut smaller
        obtain ⟨other, otherTail, otherFields, otherParted, rfl, isField, laterCut⟩ :=
          Cut.cons_iff.mp otherCut
        obtain ⟨found, otherReads⟩ := laterCut.complete
        have longer := least other found isField.inhabited
          (otherParted ▸ Cut.reaches_next isField otherReads)
        rcases smaller_cons_iff.mp smaller with shorter | ⟨sameLength, laterSmaller⟩
        · exact absurd longer (Nat.not_le_of_lt shorter)
        -- With first fields of one length the two cuts have the same rest.
        · obtain ⟨_, sameRest⟩ := List.append_inj (otherParted.symm.trans parted) sameLength
          rw [List.append_cancel_left sameRest] at laterCut
          exact leastLater otherFields otherRef laterCut laterSmaller

/-- Of two different cuts of a text one has smaller fields. -/
theorem Cut.unique
    {ending : Ending}
    {separators : List (List Char)}
    {text : List Char}
    {fields others : List (List Char)}
    {ref otherRef : Option (List Char)}
    (cut : Cut ending separators text fields ref)
    (otherCut : Cut ending separators text others otherRef)
    (notSmaller : ¬Smaller fields others)
    (notLarger : ¬Smaller others fields) :
    fields = others ∧ ref = otherRef := by
  induction separators generalizing text fields others with
  | nil =>
      obtain ⟨field, tail, parted, rfl, _, follows⟩ := Cut.nil_iff.mp cut
      obtain ⟨other, otherTail, otherParted, rfl, _, otherFollows⟩ := Cut.nil_iff.mp otherCut
      rw [smaller_cons_iff, not_or] at notSmaller notLarger
      have sameLength : field.length = other.length := by omega
      obtain ⟨rfl, rfl⟩ := List.append_inj (parted.symm.trans otherParted) sameLength
      exact ⟨rfl, follows.unique otherFollows⟩
  | cons separator separators inductionHypothesis =>
      obtain ⟨field, rest, later, parted, rfl, _, laterCut⟩ := Cut.cons_iff.mp cut
      obtain ⟨other, otherRest, otherLater, otherParted, rfl, _, otherLaterCut⟩ :=
        Cut.cons_iff.mp otherCut
      rw [smaller_cons_iff, not_or] at notSmaller notLarger
      have sameLength : field.length = other.length := by omega
      obtain ⟨rfl, sameRest⟩ := List.append_inj (parted.symm.trans otherParted) sameLength
      obtain rfl := List.append_cancel_left sameRest
      obtain ⟨rfl, rfl⟩ := inductionHypothesis laterCut otherLaterCut
        (fun smaller => notSmaller.2 ⟨rfl, smaller⟩) (fun smaller => notLarger.2 ⟨rfl, smaller⟩)
      exact ⟨rfl, rfl⟩

theorem fields?_eq_some_iff
    {ending : Ending}
    {separators : List (List Char)}
    {text : List Char}
    {fields : List (List Char)}
    {ref : Option (List Char)} :
    fields? ending separators text = some (fields, ref) ↔
      Cut ending separators text fields ref ∧
        ∀ others otherRef,
          Cut ending separators text others otherRef → ¬Smaller others fields := by
  refine ⟨fields?_sound, fun ⟨cut, least⟩ => ?_⟩
  obtain ⟨⟨chosen, chosenRef⟩, reads⟩ := cut.complete
  obtain ⟨chosenCut, chosenLeast⟩ := fields?_sound reads
  obtain ⟨rfl, rfl⟩ := chosenCut.unique cut (least _ _ chosenCut) (chosenLeast _ _ cut)
  exact reads

/-! ## Comments of a shape -/

/-- A body that begins with a character that is not blank is the whole body of the comment. -/
theorem commentBody?_eq_some_cons_iff
    {line rest : List Char}
    {character : Char}
    (inked : isBlank character = false) :
    commentBody? line = some (character :: rest) ↔ CommentOf line (character :: rest) := by
  constructor
  · intro reads
    unfold commentBody? at reads
    split at reads
    · rename_i back opened
      obtain ⟨before, blankBefore, rfl⟩ := (trimStart_eq_cons_iff (by decide)).mp opened
      obtain ⟨after, blankAfter, rfl⟩ := (trimStart_eq_cons_iff inked).mp (Option.some.inj reads)
      exact ⟨before, ['/', '/'], after, blankBefore, .inl rfl, blankAfter, rfl⟩
    · rename_i back opened
      obtain ⟨before, blankBefore, rfl⟩ := (trimStart_eq_cons_iff (by decide)).mp opened
      obtain ⟨after, blankAfter, rfl⟩ := (trimStart_eq_cons_iff inked).mp (Option.some.inj reads)
      exact ⟨before, ['#'], after, blankBefore, .inr rfl, blankAfter, rfl⟩
    · cases reads
  · rintro ⟨before, marker, after, blankBefore, isMarker, blankAfter, rfl⟩
    have trimmed : trimStart (after ++ character :: rest) = character :: rest :=
      (trimStart_eq_cons_iff inked).mpr ⟨after, blankAfter, rfl⟩
    unfold commentBody?
    rcases isMarker with rfl | rfl
    · have opened :
          trimStart (before ++ (['/', '/'] ++ (after ++ character :: rest))) =
            '/' :: '/' :: (after ++ character :: rest) :=
        (trimStart_eq_cons_iff (by decide)).mpr ⟨before, blankBefore, rfl⟩
      simp only [opened, trimmed]
    · have opened :
          trimStart (before ++ (['#'] ++ (after ++ character :: rest))) =
            '#' :: (after ++ character :: rest) :=
        (trimStart_eq_cons_iff (by decide)).mpr ⟨before, blankBefore, rfl⟩
      simp only [opened, trimmed]

/-- The keyword of a shape begins with a character that is not blank. -/
def Shape.IsKeyed (shape : Shape) : Prop :=
  ∃ head tail, shape.keyword.toList = head :: tail ∧ isBlank head = false

/-- The recognizer of comment lines of a shape. -/
def Shape.readLine?
    (shape : Shape)
    (line : List Char) :
    Option (List (List Char) × Option (List Char)) :=
  (commentBody? line).bind shape.read?

namespace Shape

variable {shape : Shape} {line : List Char}

theorem read?_eq_some_iff
    {body : List Char}
    {found : List (List Char) × Option (List Char)} :
    shape.read? body = some found ↔
      ∃ text,
        body = shape.keyword.toList ++ [' '] ++ text ∧
          fields? shape.ending (shape.separators.map String.toList) text = some found := by
  simp only [read?, Option.bind_eq_some_iff, after?_eq_some_iff]

theorem commentBody?_eq_some_keyword_iff
    (keyed : shape.IsKeyed)
    (text : List Char) :
    commentBody? line = some (shape.keyword.toList ++ [' '] ++ text) ↔
      CommentOf line (shape.keyword.toList ++ [' '] ++ text) := by
  obtain ⟨head, tail, spelled, inked⟩ := keyed
  rw [spelled]
  exact commentBody?_eq_some_cons_iff inked

theorem readLine?_eq_some_iff
    (keyed : shape.IsKeyed)
    {found : List (List Char) × Option (List Char)} :
    shape.readLine? line = some found ↔
      ∃ text,
        CommentOf line (shape.keyword.toList ++ [' '] ++ text) ∧
          fields? shape.ending (shape.separators.map String.toList) text = some found := by
  simp only [readLine?, Option.bind_eq_some_iff, read?_eq_some_iff]
  constructor
  · rintro ⟨_, isBody, text, rfl, reads⟩
    exact ⟨text, (commentBody?_eq_some_keyword_iff keyed text).mp isBody, reads⟩
  · rintro ⟨text, comment, reads⟩
    exact ⟨_, (commentBody?_eq_some_keyword_iff keyed text).mpr comment, text, rfl, reads⟩

/-- A line has at most one text behind a keyword. -/
theorem text_unique
    (keyed : shape.IsKeyed)
    {text other : List Char}
    (comment : CommentOf line (shape.keyword.toList ++ [' '] ++ text))
    (otherComment : CommentOf line (shape.keyword.toList ++ [' '] ++ other)) :
    text = other := by
  have isBody := (commentBody?_eq_some_keyword_iff keyed text).mpr comment
  rw [(commentBody?_eq_some_keyword_iff keyed other).mpr otherComment] at isBody
  exact (List.append_cancel_left (Option.some.inj isBody)).symm

/-- A comment line of a shape is read as the least fit, and there is none if it is not read. -/
theorem readLine?_eq_some_iff_fitsLeast
    (keyed : shape.IsKeyed)
    {fields : List (List Char)}
    {ref : Option (List Char)} :
    shape.readLine? line = some (fields, ref) ↔ shape.FitsLeast line fields ref := by
  rw [readLine?_eq_some_iff keyed]
  constructor
  · rintro ⟨text, comment, reads⟩
    obtain ⟨cut, least⟩ := fields?_eq_some_iff.mp reads
    refine ⟨⟨text, comment, cut⟩, ?_⟩
    rintro others otherRef ⟨otherText, otherComment, otherCut⟩
    obtain rfl := text_unique keyed comment otherComment
    exact least others otherRef otherCut
  · rintro ⟨⟨text, comment, cut⟩, least⟩
    refine ⟨text, comment, fields?_eq_some_iff.mpr ⟨cut, fun others otherRef otherCut => ?_⟩⟩
    exact least others otherRef ⟨text, comment, otherCut⟩

theorem readLine?_complete
    (keyed : shape.IsKeyed)
    {fields : List (List Char)}
    {ref : Option (List Char)}
    (fits : shape.Fits line fields ref) :
    ∃ found, shape.readLine? line = some found := by
  obtain ⟨text, comment, cut⟩ := fits
  obtain ⟨found, reads⟩ := cut.complete
  exact ⟨found, (readLine?_eq_some_iff keyed).mpr ⟨text, comment, reads⟩⟩

end Shape

end ThreatModel.Entry
