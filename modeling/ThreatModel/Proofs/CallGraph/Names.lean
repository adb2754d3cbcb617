import ThreatModel.CallGraph.Name
import ThreatModel.Proofs.CallGraph.Lines

/-!
Contract: the numbered suffixes of names.

Owns:
- that suffixes are removed wherever they stand in a name, and nothing else is;
- the run of suffixes at the end of a name, and when it is all that is removed;
- the names that are left as they are, what is left of any name among them;
- that digits are not blank, so that a name with a suffix still ends inked.

Does not own: the lines that names stand in.
-/

namespace ThreatModel

open ThreatModel.Entry ThreatModel.Text

namespace Text

/-- Each run of digits keeps clear of each range of blanks. -/
theorem isBlank_of_isDecimalDigit
    {character : Char}
    (isDigit : isDecimalDigit character = true) :
    isBlank character = false := by
  have apart : ∀ first ∈ decimalZeros, ∀ range ∈ blankRanges,
      range.2 < first ∨ first + 9 < range.1 := by
    decide
  rw [isDecimalDigit, digitValue?, Option.isSome_map] at isDigit
  obtain ⟨first, isFirst⟩ := Option.isSome_iff_exists.mp isDigit
  have inRun := List.find?_some isFirst
  rw [Bool.and_eq_true, decide_eq_true_iff, decide_eq_true_iff] at inRun
  by_contra blank
  rw [Bool.not_eq_false, isBlank, inRanges_iff] at blank
  obtain ⟨range, isRange, inRange⟩ := blank
  have clear := apart first (List.mem_of_find?_eq_some isFirst) range isRange
  omega

theorem IsRow.endsInked
    {digits : List Char}
    (isRow : IsRow digits) :
    EndsInked digits := by
  intro last isLast
  exact isBlank_of_isDecimalDigit (isRow.decimal last (List.mem_of_getLast? isLast))

theorem IsRow.startsWithDigit
    {digits : List Char}
    (isRow : IsRow digits) :
    CallGraph.startsWithDigit digits = true := by
  cases digits with
  | nil => exact absurd rfl isRow.inhabited
  | cons head rest => exact isRow.decimal head List.mem_cons_self

end Text

namespace CallGraph

/-- Digits that stand within a suffix are removed, all of them. -/
theorem stripFrom_digits
    {digits : List Char}
    (decimal : ∀ digit ∈ digits, isDecimalDigit digit = true)
    (back : List Char) :
    stripFrom true (digits ++ back) = stripFrom true back := by
  induction digits with
  | nil => rfl
  | cons head rest inductionHypothesis =>
      rw [List.forall_mem_cons] at decimal
      rw [List.cons_append, stripFrom, Bool.true_and, if_pos decimal.1,
        inductionHypothesis decimal.2]

/-- The dollar sign of a suffix is no digit, so that it changes nothing before it. -/
theorem stripFrom_append_suffix
    (inSuffix : Bool)
    (front : List Char)
    {digits : List Char}
    (isRow : IsRow digits)
    (back : List Char) :
    stripFrom inSuffix (front ++ '$' :: (digits ++ back)) =
      stripFrom inSuffix front ++ stripFrom true back := by
  have startsNumbered : startsWithDigit (digits ++ back) = true := by
    have startsWithDigit := isRow.startsWithDigit
    cases digits with
    | nil => exact absurd rfl isRow.inhabited
    | cons head rest => exact startsWithDigit
  induction front generalizing inSuffix with
  | nil =>
      have noDigit : ¬(inSuffix && isDecimalDigit '$') = true := by
        rw [show isDecimalDigit '$' = false by decide, Bool.and_false]
        exact Bool.false_ne_true
      have removed : stripFrom inSuffix ('$' :: (digits ++ back)) =
          stripFrom true (digits ++ back) := by
        rw [stripFrom, if_neg noDigit, startsNumbered, if_pos (by decide)]
      rw [List.nil_append, removed, stripFrom_digits isRow.decimal, stripFrom, List.nil_append]
  | cons head rest inductionHypothesis =>
      have sameStart : startsWithDigit (rest ++ '$' :: (digits ++ back)) = startsWithDigit rest := by
        cases rest with
        | nil => rfl
        | cons next others => rfl
      rw [List.cons_append, stripFrom, stripFrom, sameStart, inductionHypothesis,
        inductionHypothesis]
      split
      · rfl
      · split <;> rfl

theorem stripSuffix_append_suffix
    (name : List Char)
    {digits : List Char}
    (isRow : IsRow digits) :
    stripSuffix (String.ofList (name ++ '$' :: digits)) = stripSuffix (String.ofList name) := by
  have removed := stripFrom_append_suffix false name isRow []
  rw [List.append_nil, stripFrom, List.append_nil] at removed
  rw [stripSuffix, stripSuffix, String.toList_ofList, String.toList_ofList, removed]

/-! ## Texts without numbered suffixes -/

/-- A dollar sign with a digit after it stands in the text. -/
def Numbered (text : List Char) : Prop :=
  ∃ front back, text = front ++ '$' :: back ∧ startsWithDigit back = true

theorem not_numbered_nil : ¬Numbered [] := by
  rintro ⟨front, back, parts, -⟩
  cases front <;> cases parts

theorem numbered_cons_iff {character : Char} {rest : List Char} :
    Numbered (character :: rest) ↔
      (character = '$' ∧ startsWithDigit rest = true) ∨ Numbered rest := by
  constructor
  · rintro ⟨front, back, parts, startsNumbered⟩
    cases front with
    | nil =>
        obtain ⟨isDollar, isBack⟩ := List.cons.inj parts
        exact .inl ⟨isDollar, isBack ▸ startsNumbered⟩
    | cons head others => exact .inr ⟨others, back, (List.cons.inj parts).2, startsNumbered⟩
  · rintro (⟨rfl, startsNumbered⟩ | ⟨front, back, rfl, startsNumbered⟩)
    · exact ⟨[], rest, rfl, startsNumbered⟩
    · exact ⟨character :: front, back, rfl, startsNumbered⟩

theorem startsWithDigit_stripFrom_true (text : List Char) :
    startsWithDigit (stripFrom true text) = false := by
  induction text with
  | nil => rfl
  | cons character rest inductionHypothesis =>
      rw [stripFrom, Bool.true_and]
      by_cases isDigit : isDecimalDigit character = true
      · rw [if_pos isDigit, inductionHypothesis]
      · rw [if_neg isDigit]
        split
        · exact inductionHypothesis
        · exact Bool.eq_false_iff.mpr isDigit

/-- Outside a suffix no digit is removed before the first dollar sign, so that none comes to
stand at the start. -/
theorem startsWithDigit_of_stripFrom
    {text : List Char}
    (startsNumbered : startsWithDigit (stripFrom false text) = true) :
    startsWithDigit text = true := by
  cases text with
  | nil => exact startsNumbered
  | cons character rest =>
      rw [stripFrom, Bool.false_and, if_neg Bool.false_ne_true] at startsNumbered
      split at startsNumbered
      · rw [startsWithDigit_stripFrom_true] at startsNumbered
        cases startsNumbered
      · exact startsNumbered

/-- What is left is not numbered: no removal brings a dollar sign before a digit. -/
theorem not_numbered_stripFrom (inSuffix : Bool) (text : List Char) :
    ¬Numbered (stripFrom inSuffix text) := by
  induction text generalizing inSuffix with
  | nil => exact not_numbered_nil
  | cons character rest inductionHypothesis =>
      rw [stripFrom]
      split
      · exact inductionHypothesis true
      · split
        · exact inductionHypothesis true
        · next notNumbered =>
            rw [numbered_cons_iff]
            rintro (⟨isDollar, startsNumbered⟩ | numbered)
            · rw [isDollar, startsWithDigit_of_stripFrom startsNumbered] at notNumbered
              exact notNumbered rfl
            · exact inductionHypothesis false numbered

theorem stripFrom_eq_self_iff {text : List Char} :
    stripFrom false text = text ↔ ¬Numbered text := by
  constructor
  · intro unchanged
    rw [← unchanged]
    exact not_numbered_stripFrom false text
  · intro notNumbered
    induction text with
    | nil => rfl
    | cons character rest inductionHypothesis =>
        rw [numbered_cons_iff, not_or] at notNumbered
        have isKept : ¬(character = '$' && startsWithDigit rest) = true := by
          rw [Bool.and_eq_true, decide_eq_true_iff]
          exact notNumbered.1
        rw [stripFrom, Bool.false_and, if_neg Bool.false_ne_true, if_neg isKept,
          inductionHypothesis notNumbered.2]

/-! ## The run of suffixes at the end -/

/-- Numbered suffixes one after another, and nothing else. -/
inductive SuffixRun : (text : List Char) → Prop where
  | nil : SuffixRun []
  | suffix {digits rest : List Char}
      (isRow : IsRow digits)
      (later : SuffixRun rest) :
      SuffixRun ('$' :: (digits ++ rest))

theorem SuffixRun.startsWithDigit
    {run : List Char}
    (isRun : SuffixRun run) :
    startsWithDigit run = false := by
  cases isRun with
  | nil => rfl
  | suffix isRow later => exact (by decide : isDecimalDigit '$' = false)

theorem stripFrom_append_run
    {run : List Char}
    (isRun : SuffixRun run)
    (inSuffix : Bool)
    (front : List Char) :
    stripFrom inSuffix (front ++ run) = stripFrom inSuffix front := by
  induction isRun generalizing inSuffix front with
  | nil => rw [List.append_nil]
  | @suffix digits rest isRow later inductionHypothesis =>
      have gone : stripFrom true rest = [] := inductionHypothesis true []
      rw [stripFrom_append_suffix inSuffix front isRow, gone, List.append_nil]

/-- Of a text that is removed altogether, the digits up to the first dollar sign belong to a
suffix before it. -/
theorem exists_run_of_stripFrom
    {inSuffix : Bool}
    {text : List Char}
    (gone : stripFrom inSuffix text = []) :
    ∃ digits run, text = digits ++ run ∧ (∀ digit ∈ digits, isDecimalDigit digit = true) ∧
      SuffixRun run ∧ (inSuffix = false → digits = []) := by
  induction text generalizing inSuffix with
  | nil => exact ⟨[], [], rfl, fun _ member => (List.not_mem_nil member).elim, .nil, fun _ => rfl⟩
  | cons character rest inductionHypothesis =>
      rw [stripFrom] at gone
      split at gone
      · next isDigit =>
          rw [Bool.and_eq_true] at isDigit
          obtain ⟨digits, run, rfl, decimal, isRun, -⟩ := inductionHypothesis gone
          exact ⟨character :: digits, run, rfl, List.forall_mem_cons.mpr ⟨isDigit.2, decimal⟩, isRun,
            fun outside => by rw [outside] at isDigit; cases isDigit.1⟩
      · split at gone
        · next isSuffix =>
            rw [Bool.and_eq_true, decide_eq_true_iff] at isSuffix
            obtain ⟨digits, run, rfl, decimal, isRun, -⟩ := inductionHypothesis gone
            have inhabited : digits ≠ [] := by
              rintro rfl
              rw [List.nil_append, isRun.startsWithDigit] at isSuffix
              cases isSuffix.2
            exact ⟨[], character :: (digits ++ run), rfl,
              fun _ member => (List.not_mem_nil member).elim,
              isSuffix.1 ▸ .suffix ⟨inhabited, decimal⟩ isRun, fun _ => rfl⟩
        · cases gone

/-- Nothing is left of the runs of suffixes, and of no other text. -/
theorem suffixRun_iff {text : List Char} : SuffixRun text ↔ stripFrom false text = [] := by
  constructor
  · intro isRun
    exact stripFrom_append_run isRun false []
  · intro gone
    obtain ⟨digits, run, rfl, -, isRun, outside⟩ := exists_run_of_stripFrom gone
    rw [outside rfl]
    exact isRun

instance (text : List Char) : Decidable (SuffixRun text) :=
  decidable_of_iff (stripFrom false text = []) suffixRun_iff.symm

/-- What stands before the longest run of suffixes that ends the text. -/
def beforeRun : (text : List Char) → List Char
  | [] => []
  | character :: rest =>
      if SuffixRun (character :: rest) then [] else character :: beforeRun rest

/-- The name without the run of numbered suffixes at its end. -/
def withoutRun (name : String) : String :=
  String.ofList (beforeRun name.toList)

theorem exists_run (text : List Char) : ∃ run, SuffixRun run ∧ text = beforeRun text ++ run := by
  induction text with
  | nil => exact ⟨[], .nil, rfl⟩
  | cons character rest inductionHypothesis =>
      by_cases isRun : SuffixRun (character :: rest)
      · exact ⟨character :: rest, isRun, by rw [beforeRun, if_pos isRun, List.nil_append]⟩
      · obtain ⟨run, laterRun, parts⟩ := inductionHypothesis
        exact ⟨run, laterRun, by rw [beforeRun, if_neg isRun, List.cons_append, ← parts]⟩

/-- No run of suffixes at the end of the text starts earlier. -/
theorem beforeRun_isPrefix
    {front run : List Char}
    (isRun : SuffixRun run) :
    beforeRun (front ++ run) <+: front := by
  induction front with
  | nil =>
      cases run with
      | nil => exact List.nil_prefix
      | cons character rest =>
          rw [List.nil_append, beforeRun, if_pos isRun]
  | cons character rest inductionHypothesis =>
      rw [List.cons_append, beforeRun]
      split
      · exact List.nil_prefix
      · exact List.cons_prefix_cons.mpr ⟨rfl, inductionHypothesis⟩

theorem stripFrom_beforeRun (text : List Char) :
    stripFrom false (beforeRun text) = stripFrom false text := by
  obtain ⟨run, isRun, parts⟩ := exists_run text
  have removed := stripFrom_append_run isRun false (beforeRun text)
  rw [← parts] at removed
  exact removed.symm

theorem stripSuffix_withoutRun (name : String) :
    stripSuffix (withoutRun name) = stripSuffix name := by
  rw [stripSuffix, stripSuffix, withoutRun, String.toList_ofList, stripFrom_beforeRun]

theorem stripSuffix_eq_self_iff {name : String} :
    stripSuffix name = name ↔ ¬Numbered name.toList := by
  rw [stripSuffix, ← String.toList_inj, String.toList_ofList, stripFrom_eq_self_iff]

theorem stripSuffix_append_inner
    (front : List Char)
    {digits back : List Char}
    (isRow : IsRow digits)
    (ended : startsWithDigit back = false) :
    stripSuffix (String.ofList (front ++ '$' :: (digits ++ back))) =
      stripSuffix (String.ofList front) ++ stripSuffix (String.ofList back) := by
  have outside : stripFrom true back = stripFrom false back := by
    cases back with
    | nil => rfl
    | cons character rest =>
        have noDigit : isDecimalDigit character = false := ended
        rw [stripFrom, stripFrom, noDigit, Bool.and_false, Bool.and_false]
  simp only [stripSuffix, String.toList_ofList]
  rw [stripFrom_append_suffix false front isRow, outside, String.ofList_append]

/-- Suffixes are removed wherever they stand, and nothing else is. The name is thus left without
the run at its end, as it should be, just if none stands before that run. Names without others are
one node only if they are the same up to the run. -/
theorem stripSuffix_eq_withoutRun_iff (name : String) :
    (∃ run, SuffixRun run ∧ name.toList = (withoutRun name).toList ++ run ∧
      ∀ front other, SuffixRun other → name.toList = front ++ other →
        (withoutRun name).toList <+: front) ∧
      stripSuffix name = stripSuffix (withoutRun name) ∧
      (stripSuffix name = withoutRun name ↔ ¬Numbered (withoutRun name).toList) ∧
      (stripSuffix name = name ↔ ¬Numbered name.toList) ∧
      (∀ front digits back : List Char,
        name.toList = front ++ '$' :: (digits ++ back) → IsRow digits →
          startsWithDigit back = false →
            stripSuffix name =
              stripSuffix (String.ofList front) ++ stripSuffix (String.ofList back)) ∧
      ∀ other : String,
        ¬Numbered (withoutRun name).toList → ¬Numbered (withoutRun other).toList →
          (stripSuffix name = stripSuffix other ↔ withoutRun name = withoutRun other) := by
  have leaves (text : String) : stripSuffix text = stripSuffix (withoutRun text) :=
    (stripSuffix_withoutRun text).symm
  refine ⟨?_, leaves name, ?_, stripSuffix_eq_self_iff, ?_, ?_⟩
  · obtain ⟨run, isRun, parts⟩ := exists_run name.toList
    rw [withoutRun, String.toList_ofList]
    refine ⟨run, isRun, parts, ?_⟩
    intro front other isOther otherParts
    rw [otherParts]
    exact beforeRun_isPrefix isOther
  · rw [leaves name, stripSuffix_eq_self_iff]
  · intro front digits back parts isRow ended
    rw [← stripSuffix_append_inner front isRow ended, ← parts, String.ofList_toList]
  · intro other plain otherPlain
    rw [leaves name, leaves other, stripSuffix_eq_self_iff.mpr plain,
      stripSuffix_eq_self_iff.mpr otherPlain]

/-- Both suffixes of a closure in a closure stand at the end. -/
theorem closureName_stripped :
    ¬Numbered (withoutRun "server.Handle$1$23").toList ∧
      ¬Numbered (withoutRun "server.Handle$4").toList ∧
      stripSuffix "server.Handle$1$23" = withoutRun "server.Handle$1$23" ∧
      withoutRun "server.Handle$1$23" = "server.Handle" ∧
      stripSuffix "server.Handle$1$23" = stripSuffix "server.Handle$4" := by
  have plainName : ¬Numbered "server.Handle".toList := by
    rw [← stripSuffix_eq_self_iff]
    decide +kernel
  have left : withoutRun "server.Handle$1$23" = "server.Handle" := by
    decide +kernel
  have otherLeft : withoutRun "server.Handle$4" = "server.Handle" := by
    decide +kernel
  obtain ⟨-, -, same, -, -, identified⟩ := stripSuffix_eq_withoutRun_iff "server.Handle$1$23"
  have plain : ¬Numbered (withoutRun "server.Handle$1$23").toList := by
    rw [left]
    exact plainName
  have otherPlain : ¬Numbered (withoutRun "server.Handle$4").toList := by
    rw [otherLeft]
    exact plainName
  exact ⟨plain, otherPlain, same.mpr plain, left,
    (identified "server.Handle$4" plain otherPlain).mpr (left.trans otherLeft.symm)⟩

/-- A suffix inside the name is removed as well: the answer is no prefix of the name, and the name
is taken for another one that has no suffix. -/
theorem innerSuffix_stripped :
    stripSuffix "server$1.Handle" = "server.Handle" ∧
      withoutRun "server$1.Handle" = "server$1.Handle" ∧
      ¬(stripSuffix "server$1.Handle").toList <+: "server$1.Handle".toList ∧
      stripSuffix "server$1.Handle" = stripSuffix "server.Handle" ∧
      withoutRun "server.Handle" ≠ withoutRun "server$1.Handle" := by
  decide +kernel

/-! ## Names that are left as they are -/

theorem not_numbered_stripSuffix (name : String) : ¬Numbered (stripSuffix name).toList := by
  rw [stripSuffix, String.toList_ofList]
  exact not_numbered_stripFrom false name.toList

/-- What is left of a name is numbered nowhere, so that nothing is removed from it again, and just
the names that are numbered nowhere are left as they are. One more suffix leaves the same. -/
theorem stripSuffix_normal (name : String) :
    ¬Numbered (stripSuffix name).toList ∧
      stripSuffix (stripSuffix name) = stripSuffix name ∧
      (stripSuffix name = name ↔ ¬Numbered name.toList) ∧
      ∀ digits : String, IsRow digits.toList →
        stripSuffix (name ++ "$" ++ digits) = stripSuffix name := by
  have plain := not_numbered_stripSuffix name
  refine ⟨plain, stripSuffix_eq_self_iff.mpr plain, stripSuffix_eq_self_iff, ?_⟩
  intro digits isRow
  have parts : name ++ "$" ++ digits = String.ofList (name.toList ++ '$' :: digits.toList) := by
    rw [← String.toList_inj, String.toList_ofList, String.toList_append, String.toList_append,
      List.append_assoc]
    rfl
  rw [parts, stripSuffix_append_suffix name.toList isRow, String.ofList_toList]

/-- The dollar sign before the suffixes stays, and so does the one at the end, until digits are put
behind it. -/
theorem bareDollars_stripped :
    IsRow "٤2".toList ∧
      stripSuffix ("run$$1$2b$" ++ "$" ++ "٤2") = stripSuffix "run$$1$2b$" ∧
      stripSuffix "run$$1$2b$" = "run$b$" ∧
      stripSuffix "run$b$" = "run$b$" := by
  have isRow : IsRow "٤2".toList := by
    decide +kernel
  obtain ⟨-, again, -, appended⟩ := stripSuffix_normal "run$$1$2b$"
  have left : stripSuffix "run$$1$2b$" = "run$b$" := by
    decide +kernel
  exact ⟨isRow, appended "٤2" isRow, left, left ▸ again⟩

end CallGraph

end ThreatModel
