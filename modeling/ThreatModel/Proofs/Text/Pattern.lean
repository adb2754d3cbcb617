import ThreatModel.Text.Pattern

/-!
Contract: what the readers of a rest of a line accept, and which of the readings they choose.

Owns:
- blanks before a rest, a fixed beginning before it, and the blanks that are trimmed;
- the readings of a field that a reader of what follows allows;
- the choice of a field: a shortest one, found whenever there is one.

Does not own: any particular shape of a line.
-/

namespace ThreatModel.Text

variable {α : Type}

/-! ## Blanks -/

theorem allBlank_iff {text : List Char} :
    allBlank text = true ↔ ∀ character ∈ text, isBlank character = true :=
  List.all_eq_true

@[simp] theorem allBlank_nil : allBlank [] = true :=
  rfl

@[simp] theorem allBlank_cons
    (character : Char)
    (rest : List Char) :
    allBlank (character :: rest) = (isBlank character && allBlank rest) :=
  List.all_cons

@[simp] theorem allBlank_append (front back : List Char) :
    allBlank (front ++ back) = (allBlank front && allBlank back) :=
  List.all_append

/-- Nothing but blanks is removed from the start of a text. -/
theorem exists_blanks_append_trimStart (text : List Char) :
    ∃ blanks, allBlank blanks = true ∧ text = blanks ++ trimStart text := by
  refine ⟨text.takeWhile isBlank, ?_, (List.takeWhile_append_dropWhile ..).symm⟩
  exact List.all_takeWhile

theorem trimStart_append
    {blanks : List Char}
    (blank : allBlank blanks = true)
    (rest : List Char) :
    trimStart (blanks ++ rest) = trimStart rest := by
  induction blanks with
  | nil => rfl
  | cons head tail inductionHypothesis =>
      rw [allBlank_cons, Bool.and_eq_true] at blank
      rw [List.cons_append, trimStart_cons_of_blank _ blank.1, inductionHypothesis blank.2]

/-- What is left is empty or begins with a character that is not blank. -/
theorem not_blank_of_trimStart_eq_cons
    {text rest : List Char}
    {character : Char}
    (left : trimStart text = character :: rest) :
    isBlank character = false := by
  induction text with
  | nil => cases left
  | cons head tail inductionHypothesis =>
      by_cases blank : isBlank head = true
      · rw [trimStart_cons_of_blank _ blank] at left
        exact inductionHypothesis left
      · have inked : isBlank head = false := by simpa using blank
        rw [trimStart_cons_of_not_blank _ inked] at left
        cases left
        exact inked

theorem trimStart_eq_nil_iff {text : List Char} :
    trimStart text = [] ↔ allBlank text = true := by
  constructor
  · intro nothing
    obtain ⟨blanks, blank, parted⟩ := exists_blanks_append_trimStart text
    rw [parted, nothing, List.append_nil]
    exact blank
  · intro blank
    have trimmed := trimStart_append blank []
    rwa [List.append_nil] at trimmed

/-- Nothing but blanks is trimmed. -/
theorem exists_trim (text : List Char) :
    ∃ front back,
      allBlank front = true ∧ allBlank back = true ∧ text = front ++ (trim text ++ back) := by
  obtain ⟨front, frontBlank, started⟩ := exists_blanks_append_trimStart text
  obtain ⟨back, backBlank, ended⟩ := exists_blanks_append_trimStart (trimStart text).reverse
  refine ⟨front, back.reverse, frontBlank, ?_, ?_⟩
  · rw [allBlank_iff] at backBlank ⊢
    exact fun character member => backBlank character (List.mem_reverse.mp member)
  · have isEnd : trimStart text = trim text ++ back.reverse := by
      rw [← List.reverse_inj, ended, List.reverse_append, List.reverse_reverse]
      congr 1
      exact (List.reverse_reverse _).symm
    rw [← isEnd, ← started]

theorem trim_eq_nil_iff {text : List Char} : trim text = [] ↔ allBlank text = true := by
  have sameEnd : allBlank (trimStart text).reverse = true ↔ allBlank (trimStart text) = true := by
    simp [allBlank_iff]
  have sameStart : allBlank (trimStart text) = true ↔ allBlank text = true := by
    obtain ⟨blanks, blank, parted⟩ := exists_blanks_append_trimStart text
    have whole := allBlank_append blanks (trimStart text)
    rw [← parted, blank, Bool.true_and] at whole
    rw [whole]
  calc
    trim text = [] ↔ trimStart (trimStart text).reverse = [] := List.reverse_eq_nil_iff
    _ ↔ allBlank (trimStart text).reverse = true := trimStart_eq_nil_iff
    _ ↔ allBlank text = true := sameEnd.trans sameStart

/-- A rest that begins with a character that is not blank is found behind any blanks. -/
theorem trimStart_eq_cons_iff
    {text rest : List Char}
    {character : Char}
    (inked : isBlank character = false) :
    trimStart text = character :: rest ↔
      ∃ blanks, allBlank blanks = true ∧ text = blanks ++ character :: rest := by
  constructor
  · intro left
    rw [← left]
    exact exists_blanks_append_trimStart text
  · rintro ⟨blanks, blank, rfl⟩
    rw [trimStart_append blank, trimStart_cons_of_not_blank rest inked]

/-- The last character of a text that is not blank has one place. -/
theorem append_cons_inj_of_allBlank
    {front otherFront back otherBack : List Char}
    {mark otherMark : Char}
    (inked : isBlank mark = false)
    (otherInked : isBlank otherMark = false)
    (blank : allBlank back = true)
    (otherBlank : allBlank otherBack = true)
    (same : front ++ mark :: back = otherFront ++ otherMark :: otherBack) :
    front = otherFront ∧ mark = otherMark ∧ back = otherBack := by
  obtain ⟨between, joined, split⟩ | ⟨between, joined, split⟩ := List.append_eq_append_iff.mp same
  · cases between with
    | nil =>
        rw [List.nil_append, List.cons.injEq] at split
        exact ⟨by rw [joined, List.append_nil], split⟩
    | cons head tail =>
        rw [List.cons_append, List.cons.injEq] at split
        rw [split.2, allBlank_append, allBlank_cons, otherInked] at blank
        simp at blank
  · cases between with
    | nil =>
        rw [List.nil_append, List.cons.injEq] at split
        exact ⟨by rw [joined, List.append_nil], split.1.symm, split.2.symm⟩
    | cons head tail =>
        rw [List.cons_append, List.cons.injEq] at split
        rw [split.2, allBlank_append, allBlank_cons, inked] at otherBlank
        simp at otherBlank

/-! ## Fixed beginnings -/

theorem after?_eq_some_iff {beginning text rest : List Char} :
    after? beginning text = some rest ↔ text = beginning ++ rest := by
  induction beginning generalizing text with
  | nil => simp [after?]
  | cons expected beginning inductionHypothesis =>
      cases text with
      | nil => simp [after?]
      | cons character text =>
          by_cases same : character = expected
          · simp [after?, same, inductionHypothesis]
          · simp [after?, same]

/-! ## Fields -/

/-- The beginning `field` of the text is free of newlines and `follow` reads the rest. -/
def Reaches
    (follow : List Char → Option α)
    (text field : List Char)
    (found : α) :
    Prop :=
  '\n' ∉ field ∧ ∃ rest, text = field ++ rest ∧ follow rest = some found

namespace Reaches

variable {follow : List Char → Option α} {text field : List Char} {found : α}

/-- Readings of fields of one length are the same. -/
theorem unique
    {other : List Char}
    {otherFound : α}
    (reading : Reaches follow text field found)
    (otherReading : Reaches follow text other otherFound)
    (sameLength : field.length = other.length) :
    field = other ∧ found = otherFound := by
  obtain ⟨_, rest, parted, follows⟩ := reading
  obtain ⟨_, otherRest, otherParted, otherFollows⟩ := otherReading
  obtain ⟨rfl, rfl⟩ := List.append_inj (parted.symm.trans otherParted) sameLength
  rw [follows] at otherFollows
  exact ⟨rfl, Option.some.inj otherFollows⟩

theorem cons_iff
    {character : Char}
    {rest : List Char} :
    Reaches follow (character :: rest) (character :: field) found ↔
      character ≠ '\n' ∧ Reaches follow rest field found := by
  simp only [Reaches, List.mem_cons, not_or, List.cons_append, List.cons.injEq, true_and, ne_eq,
    eq_comm (a := '\n'), and_assoc]

/-- A field is empty, or it begins with the first character of the text. -/
theorem eq_cons
    {character : Char}
    {rest : List Char}
    (reading : Reaches follow (character :: rest) field found)
    (inhabited : field ≠ []) :
    ∃ tail, field = character :: tail := by
  obtain ⟨_, back, parted, _⟩ := reading
  cases field with
  | nil => exact absurd rfl inhabited
  | cons head tail =>
      rw [List.cons_append, List.cons.injEq] at parted
      exact ⟨tail, by rw [parted.1]⟩

end Reaches

section Shortest

variable {follow : List Char → Option α}

/-- What is found is a reading, and none has a shorter field. -/
theorem shortest_sound
    {text field : List Char}
    {found : α}
    (reads : shortest follow text = some (field, found)) :
    Reaches follow text field found ∧
      ∀ other otherFound, Reaches follow text other otherFound → field.length ≤ other.length := by
  induction text generalizing field with
  | nil =>
      rw [shortest, Option.map_eq_some_iff] at reads
      obtain ⟨_, follows, pair⟩ := reads
      cases pair
      exact ⟨⟨by simp, [], rfl, follows⟩, fun _ _ _ => Nat.zero_le _⟩
  | cons character rest inductionHypothesis =>
      rw [shortest] at reads
      split at reads
      · rename_i follows
        cases reads
        exact ⟨⟨by simp, character :: rest, rfl, follows⟩, fun _ _ _ => Nat.zero_le _⟩
      · rename_i stuck
        split at reads
        · cases reads
        · rename_i sameLine
          obtain ⟨⟨tail, _⟩, later, pair⟩ := Option.map_eq_some_iff.mp reads
          cases pair
          obtain ⟨reading, least⟩ := inductionHypothesis later
          refine ⟨Reaches.cons_iff.mpr ⟨sameLine, reading⟩, fun other otherFound otherReading => ?_⟩
          -- The empty field is no reading here, since `follow` does not read the whole text.
          have inhabited : other ≠ [] := by
            rintro rfl
            obtain ⟨_, back, parted, follows⟩ := otherReading
            rw [List.nil_append] at parted
            rw [← parted, stuck] at follows
            cases follows
          obtain ⟨otherTail, rfl⟩ := otherReading.eq_cons inhabited
          have shorter := least otherTail otherFound (Reaches.cons_iff.mp otherReading).2
          simpa using shorter

/-- Where there is a reading, one is found. -/
theorem shortest_complete
    {text field : List Char}
    {found : α}
    (reading : Reaches follow text field found) :
    ∃ pair, shortest follow text = some pair := by
  induction text generalizing field with
  | nil =>
      obtain ⟨_, rest, parted, follows⟩ := reading
      obtain ⟨rfl, rfl⟩ := List.append_eq_nil_iff.mp parted.symm
      exact ⟨([], found), by rw [shortest, follows, Option.map_some]⟩
  | cons character rest inductionHypothesis =>
      rw [shortest]
      split
      · exact ⟨_, rfl⟩
      · rename_i stuck
        have inhabited : field ≠ [] := by
          rintro rfl
          obtain ⟨_, back, parted, follows⟩ := reading
          rw [List.nil_append] at parted
          rw [← parted, stuck] at follows
          cases follows
        obtain ⟨tail, rfl⟩ := reading.eq_cons inhabited
        obtain ⟨sameLine, later⟩ := Reaches.cons_iff.mp reading
        obtain ⟨pair, found⟩ := inductionHypothesis later
        exact ⟨_, by rw [if_neg sameLine, found, Option.map_some]⟩

theorem shortest_eq_some_iff
    {text field : List Char}
    {found : α} :
    shortest follow text = some (field, found) ↔
      Reaches follow text field found ∧
        ∀ other otherFound, Reaches follow text other otherFound →
          field.length ≤ other.length := by
  refine ⟨shortest_sound, fun ⟨reading, least⟩ => ?_⟩
  obtain ⟨⟨chosen, chosenFound⟩, reads⟩ := shortest_complete reading
  obtain ⟨chosenReading, chosenLeast⟩ := shortest_sound reads
  have sameLength : chosen.length = field.length :=
    Nat.le_antisymm (chosenLeast _ _ reading) (least _ _ chosenReading)
  obtain ⟨rfl, rfl⟩ := chosenReading.unique reading sameLength
  exact reads

theorem shortestField_eq_some_iff
    {text field : List Char}
    {found : α} :
    shortestField follow text = some (field, found) ↔
      field ≠ [] ∧ Reaches follow text field found ∧
        ∀ other otherFound, other ≠ [] → Reaches follow text other otherFound →
          field.length ≤ other.length := by
  cases text with
  | nil =>
      have onlyEmpty : ∀ {other : List Char} {otherFound : α},
          Reaches follow [] other otherFound → other = [] := by
        rintro other otherFound ⟨_, rest, parted, _⟩
        exact (List.append_eq_nil_iff.mp parted.symm).1
      constructor
      · intro reads
        cases reads
      · rintro ⟨inhabited, reading, _⟩
        exact absurd (onlyEmpty reading) inhabited
  | cons character rest =>
      constructor
      · intro reads
        rw [shortestField] at reads
        split at reads
        · cases reads
        · rename_i sameLine
          obtain ⟨⟨tail, _⟩, later, pair⟩ := Option.map_eq_some_iff.mp reads
          cases pair
          obtain ⟨reading, least⟩ := shortest_sound later
          refine ⟨by simp, Reaches.cons_iff.mpr ⟨sameLine, reading⟩, ?_⟩
          intro other otherFound inhabited otherReading
          obtain ⟨otherTail, rfl⟩ := otherReading.eq_cons inhabited
          have shorter := least otherTail otherFound (Reaches.cons_iff.mp otherReading).2
          simpa using shorter
      · rintro ⟨inhabited, reading, least⟩
        obtain ⟨tail, rfl⟩ := reading.eq_cons inhabited
        obtain ⟨sameLine, later⟩ := Reaches.cons_iff.mp reading
        have chosen : shortest follow rest = some (tail, found) := by
          rw [shortest_eq_some_iff]
          refine ⟨later, fun other otherFound otherReading => ?_⟩
          have longer := least (character :: other) otherFound (by simp)
            (Reaches.cons_iff.mpr ⟨sameLine, otherReading⟩)
          simpa using longer
        rw [shortestField, if_neg sameLine, chosen, Option.map_some]

/-- Where there is a reading of a field that is not empty, one is found. -/
theorem shortestField_complete
    {text field : List Char}
    {found : α}
    (inhabited : field ≠ [])
    (reading : Reaches follow text field found) :
    ∃ pair, shortestField follow text = some pair := by
  cases text with
  | nil =>
      obtain ⟨_, rest, parted, _⟩ := reading
      exact absurd (List.append_eq_nil_iff.mp parted.symm).1 inhabited
  | cons character rest =>
      obtain ⟨tail, rfl⟩ := reading.eq_cons inhabited
      obtain ⟨sameLine, later⟩ := Reaches.cons_iff.mp reading
      obtain ⟨pair, found⟩ := shortest_complete later
      exact ⟨_, by rw [shortestField, if_neg sameLine, found, Option.map_some]⟩

end Shortest

end ThreatModel.Text
