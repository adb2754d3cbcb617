import ThreatModel.Text.Split

/-!
Contract: the pieces of a text that was put together at separators.

Owns:
- that a text without separators is one piece, that a separator cuts a text in two,
  and that no piece has a separator in it;
- words, where blanks are the separators;
- which texts end in a piece.

Does not own: any particular separator but blanks.
-/

namespace ThreatModel.Text

variable {separates : Char → Bool} {text : List Char}

theorem splitWhere_of_clear (clear : ∀ character ∈ text, separates character = false) :
    splitWhere separates text = [text] := by
  induction text with
  | nil => rfl
  | cons head tail inductionHypothesis =>
      rw [List.forall_mem_cons] at clear
      rw [splitWhere, if_neg (by simp [clear.1]), inductionHypothesis clear.2]
      rfl

/-- A separator ends the pieces before it, and other pieces begin behind it. -/
theorem splitWhere_append_cons
    {separator : Char}
    (isSeparator : separates separator = true)
    (front back : List Char) :
    splitWhere separates (front ++ separator :: back) =
      splitWhere separates front ++ splitWhere separates back := by
  induction front with
  | nil => simp [splitWhere, isSeparator]
  | cons head tail inductionHypothesis =>
      rw [List.cons_append]
      by_cases cuts : separates head = true
      · rw [splitWhere, splitWhere, if_pos cuts, if_pos cuts, inductionHypothesis, List.cons_append]
      · rw [splitWhere, splitWhere, if_neg cuts, if_neg cuts, inductionHypothesis]
        cases split : splitWhere separates tail with
        | nil => exact absurd split (splitWhere_ne_nil separates tail)
        | cons first rest => rfl

theorem clear_of_mem_splitWhere
    {piece : List Char}
    (isPiece : piece ∈ splitWhere separates text) :
    ∀ character ∈ piece, separates character = false := by
  induction text generalizing piece with
  | nil =>
      rw [splitWhere, List.mem_singleton] at isPiece
      simp [isPiece]
  | cons head tail inductionHypothesis =>
      rw [splitWhere] at isPiece
      by_cases cuts : separates head = true
      · rw [if_pos cuts, List.mem_cons] at isPiece
        rcases isPiece with rfl | later
        · simp
        · exact inductionHypothesis later
      · rw [if_neg cuts] at isPiece
        cases split : splitWhere separates tail with
        | nil => exact absurd split (splitWhere_ne_nil separates tail)
        | cons first rest =>
            rw [split, List.modifyHead_cons, List.mem_cons] at isPiece
            rw [split] at inductionHypothesis
            rcases isPiece with rfl | later
            · exact List.forall_mem_cons.mpr
                ⟨Bool.eq_false_iff.mpr cuts, inductionHypothesis List.mem_cons_self⟩
            · exact inductionHypothesis (List.mem_cons_of_mem first later)

/-! ## The last piece -/

theorem lastPiece_of_clear (clear : ∀ character ∈ text, separates character = false) :
    lastPiece separates text = text := by
  simp only [lastPiece, splitWhere_of_clear clear, List.getLast_singleton]

theorem lastPiece_append_cons
    {separator : Char}
    (isSeparator : separates separator = true)
    (front back : List Char) :
    lastPiece separates (front ++ separator :: back) = lastPiece separates back := by
  simp only [lastPiece, splitWhere_append_cons isSeparator]
  exact List.getLast_append_of_ne_nil _ (splitWhere_ne_nil separates back)

/-- A text has no separator, or it has a last one. -/
theorem clear_or_exists_last (separates : Char → Bool) (text : List Char) :
    (∀ character ∈ text, separates character = false) ∨
      ∃ front separator back,
        separates separator = true ∧ (∀ character ∈ back, separates character = false) ∧
          text = front ++ separator :: back := by
  induction text with
  | nil => exact .inl (by simp)
  | cons head tail inductionHypothesis =>
      obtain clear | ⟨front, separator, back, isSeparator, clear, rfl⟩ := inductionHypothesis
      · by_cases cuts : separates head = true
        · exact .inr ⟨[], head, tail, cuts, clear, rfl⟩
        · exact .inl (List.forall_mem_cons.mpr ⟨by simpa using cuts, clear⟩)
      · exact .inr ⟨head :: front, separator, back, isSeparator, clear, rfl⟩

/-- A piece without separators is the last one of a text if it is the whole text or stands behind a
separator. -/
theorem lastPiece_eq_iff
    {piece : List Char}
    (clear : ∀ character ∈ piece, separates character = false) :
    lastPiece separates text = piece ↔
      text = piece ∨
        ∃ front separator, separates separator = true ∧ text = front ++ separator :: piece := by
  constructor
  · intro isLast
    obtain whole | ⟨front, separator, back, isSeparator, backClear, rfl⟩ :=
      clear_or_exists_last separates text
    · rw [lastPiece_of_clear whole] at isLast
      exact .inl isLast
    · rw [lastPiece_append_cons isSeparator, lastPiece_of_clear backClear] at isLast
      exact .inr ⟨front, separator, isSeparator, by rw [isLast]⟩
  · rintro (rfl | ⟨front, separator, isSeparator, rfl⟩)
    · exact lastPiece_of_clear clear
    · rw [lastPiece_append_cons isSeparator, lastPiece_of_clear clear]

/-! ## Words -/

theorem words_of_inked
    (inhabited : text ≠ [])
    (inked : ∀ character ∈ text, isBlank character = false) :
    words text = [text] := by
  rw [words, splitWhere_of_clear inked]
  simp [inhabited]

/-- A blank ends a word. -/
theorem words_append_cons
    {blank : Char}
    (isBlank : isBlank blank = true)
    (front back : List Char) :
    words (front ++ blank :: back) = words front ++ words back := by
  rw [words, splitWhere_append_cons isBlank, List.filter_append]
  rfl

end ThreatModel.Text
