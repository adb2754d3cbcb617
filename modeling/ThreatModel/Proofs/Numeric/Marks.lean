import Mathlib.Data.List.Basic
import ThreatModel.Numeric.Shortest

/-!
Contract: the characters that numbers are written with.

Owns: that whole numbers are written with digits and a minus sign, and values in binary
floating point with no more than digits, signs, a point, an exponent mark and the
letters of what is no finite value.

Does not own: which digits are written.
-/

namespace ThreatModel.Numeric

/-! ## Whole numbers -/

theorem not_mem_toDigits
    (number : Nat)
    {mark : Char}
    (noDigit : mark.isDigit = false) :
    mark ∉ Nat.toDigits 10 number := by
  intro member
  rw [Nat.isDigit_of_mem_toDigits (by decide) (Nat.le_refl 10) member] at noDigit
  cases noDigit

theorem not_mem_toString_nat
    (number : Nat)
    {mark : Char}
    (noDigit : mark.isDigit = false) :
    mark ∉ (toString number).toList := by
  simpa using not_mem_toDigits number noDigit

theorem not_mem_toString_int
    (number : Int)
    {mark : Char}
    (noDigit : mark.isDigit = false)
    (noSign : mark ≠ '-') :
    mark ∉ (toString number).toList := by
  cases number with
  | ofNat magnitude => exact not_mem_toString_nat magnitude noDigit
  | negSucc magnitude =>
      change mark ∉ ("-" ++ toString (magnitude + 1)).toList
      rw [String.toList_append]
      simpa [noSign] using not_mem_toDigits (magnitude + 1) noDigit

/-! ## Values in binary floating point -/

/-- The characters that are no digits and stand in the text of a value. -/
def valueMarks : List Char :=
  ['.', 'e', '+', '-', 'n', 'a', 'i', 'f']

/-- A mark that no text of a value has. -/
structure Foreign (mark : Char) : Prop where
  noDigit : mark.isDigit = false
  noMark : mark ∉ valueMarks

variable {mark : Char} (foreign : Foreign mark) {digits : List Char}

include foreign

theorem Foreign.ne_zero : mark ≠ '0' := by
  rintro rfl
  exact absurd foreign.noDigit (by decide)

theorem not_mem_zeros (count : Nat) : mark ∉ zeros count :=
  fun member => foreign.ne_zero (List.eq_of_mem_replicate member)

theorem not_mem_padLeft
    (clear : mark ∉ digits)
    (width : Nat) :
    mark ∉ padLeft width digits := by
  rw [padLeft, List.mem_append, not_or]
  exact ⟨not_mem_zeros foreign _, clear⟩

theorem not_mem_dropTrailingZeros (clear : mark ∉ digits) : mark ∉ dropTrailingZeros digits := by
  unfold dropTrailingZeros
  split
  · simpa using foreign.ne_zero
  · intro member
    have inReversed := (List.dropWhile_sublist _).subset (List.mem_reverse.mp member)
    exact clear (List.mem_reverse.mp inReversed)

theorem Layout.not_mem_write
    (clear : mark ∉ digits)
    (layout : Layout)
    (point : Int) :
    mark ∉ layout.write digits point := by
  have noMark := foreign.noMark
  simp only [valueMarks, List.mem_cons, List.not_mem_nil, or_false, not_or] at noMark
  obtain ⟨noPoint, noExponent, noPlus, noMinus, _⟩ := noMark
  have noZeros := not_mem_zeros foreign
  have taken (count : Nat) : mark ∉ digits.take count := fun member =>
    clear (List.mem_of_mem_take member)
  have dropped (count : Nat) : mark ∉ digits.drop count := fun member =>
    clear (List.mem_of_mem_drop member)
  unfold write
  dsimp only
  split
  · split
    · simp [foreign.ne_zero, noPoint, noZeros, clear]
    · split
      · simp [foreign.ne_zero, noPoint, noZeros, clear]
      · simp [noPoint, taken, dropped]
  · have exponent := not_mem_padLeft foreign
      (not_mem_toDigits (point - 1).natAbs foreign.noDigit) layout.exponentDigits
    have sign : mark ≠ if point - 1 < 0 then '-' else '+' := by
      split <;> assumption
    rw [List.mem_append, List.mem_cons, List.mem_cons, not_or, not_or, not_or]
    refine ⟨?_, noExponent, sign, exponent⟩
    split
    · simpa using foreign.ne_zero
    · exact clear
    · simp only [List.mem_cons, not_or] at clear ⊢
      exact ⟨clear.1, noPoint, clear.2⟩

theorem not_mem_signed
    (negative : Bool)
    {magnitude : List Char}
    (clear : mark ∉ magnitude) :
    mark ∉ if negative then '-' :: magnitude else magnitude := by
  have noMark := foreign.noMark
  simp only [valueMarks, List.mem_cons, List.not_mem_nil, or_false, not_or] at noMark
  split
  · exact fun member => clear ((List.mem_cons.mp member).resolve_left noMark.2.2.2.1)
  · exact clear

theorem not_mem_text (value : Binary64) : mark ∉ value.text.toList := by
  have noMark := foreign.noMark
  simp only [valueMarks, List.mem_cons, List.not_mem_nil, or_false, not_or] at noMark
  cases value with
  | notANumber => simp [Binary64.text, noMark]
  | infinite negative => cases negative <;> simp [Binary64.text, noMark]
  | finite negative significand exponent =>
      rw [Binary64.text, String.toList_ofList]
      refine not_mem_signed foreign negative ?_
      split
      · exact Layout.not_mem_write foreign (by simpa using foreign.ne_zero) plainLayout 1
      · exact Layout.not_mem_write foreign
          (not_mem_dropTrailingZeros foreign (not_mem_toDigits _ foreign.noDigit)) plainLayout _

end ThreatModel.Numeric
