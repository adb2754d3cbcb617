import ThreatModel.Proofs.Entry.Grammar
import ThreatModel.Proofs.Text.Parentheses

/-!
Contract: the references at the ends of lines.

Owns:
- where a reference begins and ends on its line;
- which references of balanced lines are balanced: those whose opening parenthesis
  is closed by the last one of the line.

Does not own: what references refer to.
-/

namespace ThreatModel.Entry

open ThreatModel.Text

/-- The text ends in a field and a reference, which is all that stands between the first
parenthesis behind the first character of the field and the last parenthesis. -/
structure EndsInReference (text field ref : List Char) : Prop where
  parted : ∃ front before after,
    allBlank before = true ∧ allBlank after = true ∧
      text = front ++ (field ++ (before ++ '(' :: (ref ++ ')' :: after)))
  opensFirst : '\n' ∉ text → '(' ∉ field.tail

namespace EndsInReference

variable {text field ref : List Char}

/-- What stands before a text changes nothing about its end. -/
theorem append_left
    (ends : EndsInReference text field ref)
    (front : List Char) :
    EndsInReference (front ++ text) field ref := by
  obtain ⟨⟨between, before, after, blankBefore, blankAfter, rfl⟩, opensFirst⟩ := ends
  refine ⟨⟨front ++ between, before, after, blankBefore, blankAfter, by simp⟩, fun sameLine => ?_⟩
  exact opensFirst fun member => sameLine (List.mem_append_right front member)

/-- A field that could end before one of its parentheses would end there. -/
theorem of_shortestField
    {ending : Ending}
    (reads : shortestField ending.read? text = some (field, some ref)) :
    EndsInReference text field ref := by
  obtain ⟨inhabited, ⟨sameLine, tail, rfl, follows⟩, least⟩ := shortestField_eq_some_iff.mp reads
  rw [Ending.read?_eq_some_iff] at follows
  cases follows with
  | @referenced before _ after blankBefore _ blankAfter =>
      refine ⟨⟨[], before, after, blankBefore, blankAfter, rfl⟩, fun textSameLine opened => ?_⟩
      obtain ⟨head, rest, rfl⟩ := List.exists_cons_of_ne_nil inhabited
      obtain ⟨short, swallowed, rfl⟩ := List.append_of_mem opened
      have longerFollows : Ending.Follows .reference
          ('(' :: ((swallowed ++ (before ++ '(' :: ref)) ++ ')' :: after))
          (some (swallowed ++ (before ++ '(' :: ref))) := by
        refine @Ending.Follows.referenced [] _ after rfl (fun member => textSameLine ?_) blankAfter
        simp only [List.mem_append, List.mem_cons] at member ⊢
        tauto
      have shortReaches : Reaches Ending.reference.read?
          (head :: (short ++ '(' :: swallowed) ++ (before ++ '(' :: (ref ++ ')' :: after)))
          (head :: short) (some (swallowed ++ (before ++ '(' :: ref))) := by
        refine ⟨fun member => sameLine ?_, _, ?_, Ending.read?_eq_some_iff.mpr longerFollows⟩
        · simp only [List.mem_append, List.mem_cons] at member ⊢
          tauto
        · simp
      have longer := least (head :: short) _ (List.cons_ne_nil head short) shortReaches
      simp only [List.length_cons, List.length_append] at longer
      omega

end EndsInReference

/-- Where the last of some fields has a reference behind it, so has the text. -/
theorem endsInReference_of_fields?
    {ending : Ending}
    {separators fields : List (List Char)}
    {text ref : List Char}
    (reads : fields? ending separators text = some (fields, some ref)) :
    ∃ last, fields.getLast? = some last ∧ EndsInReference text last ref := by
  induction separators generalizing text fields with
  | nil =>
      obtain ⟨⟨field, _⟩, chosen, pair⟩ := Option.map_eq_some_iff.mp reads
      cases pair
      exact ⟨field, rfl, .of_shortestField chosen⟩
  | cons separator separators inductionHypothesis =>
      obtain ⟨⟨field, later, _⟩, chosen, pair⟩ := Option.map_eq_some_iff.mp reads
      cases pair
      obtain ⟨_, ⟨_, _, rfl, follows⟩, _⟩ := shortestField_eq_some_iff.mp chosen
      obtain ⟨rest, begun, laterReads⟩ := Option.bind_eq_some_iff.mp follows
      obtain rfl := after?_eq_some_iff.mp begun
      obtain ⟨last, isLast, ends⟩ := inductionHypothesis laterReads
      refine ⟨last, ?_, (ends.append_left separator).append_left field⟩
      rw [List.getLast?_cons, isLast, Option.getD_some]

section Line

variable {line : String} {entry : Entry} {layout : Layout} {ref : String}

theorem exists_last_of_ref
    (reads : ofLine? line = some entry)
    (laidOut : entry.layout? = some layout)
    (referenced : layout.ref = some ref) :
    ∃ last, layout.fields.getLast? = some last ∧
      EndsInReference (dropLineEnd line.toList) last.toList ref.toList := by
  have keyed := isKeyed_of_mem_shapes layout.shape (shape_mem_shapes laidOut)
  have least := (fitsLeast_of_layout? laidOut).mp (ofLine?_eq_some_iff.mp reads)
  obtain ⟨text, ⟨before, marker, after, _, _, _, parted⟩, fieldsRead⟩ :=
    (Shape.readLine?_eq_some_iff keyed).mp ((Shape.readLine?_eq_some_iff_fitsLeast keyed).mpr least)
  rw [referenced, Option.map_some] at fieldsRead
  obtain ⟨last, isLast, ends⟩ := endsInReference_of_fields? fieldsRead
  rw [List.getLast?_map, Option.map_eq_some_iff] at isLast
  obtain ⟨known, isKnown, rfl⟩ := isLast
  rw [parted]
  exact ⟨known, isKnown, (((ends.append_left _).append_left after).append_left marker).append_left
    before⟩

/-- A reference on a balanced line is all that stands behind the first parenthesis after the first
character of the last field, up to the last parenthesis of the line. It is balanced, and then it is
the last group of the line, unless the phrase that its opening parenthesis encloses ends before the
line does, so that more is taken for the reference than this phrase. -/
theorem reference_balanced_iff
    (reads : ofLine? line = some entry)
    (laidOut : entry.layout? = some layout)
    (referenced : layout.ref = some ref)
    (balanced : Balanced (dropLineEnd line.toList)) :
    ∃ last, layout.fields.getLast? = some last ∧
      EndsInReference (dropLineEnd line.toList) last.toList ref.toList ∧
      (Balanced ref.toList ↔
        ¬∃ phrase rest, Balanced phrase ∧ ref.toList = phrase ++ ')' :: rest) := by
  obtain ⟨last, isLast, ends⟩ := exists_last_of_ref reads laidOut referenced
  refine ⟨last, isLast, ends, ?_⟩
  obtain ⟨front, before, after, _, blankAfter, parted⟩ := ends.parted
  have enclosed : dropLineEnd line.toList =
      (front ++ (last.toList ++ before)) ++ '(' :: (ref.toList ++ ')' :: after) := by
    rw [parted]
    simp
  rw [enclosed] at balanced
  refine balanced.enclosed_iff fun character member => ?_
  have blank := allBlank_iff.mp blankAfter character member
  constructor
  · rintro rfl
    cases blank
  · rintro rfl
    cases blank

end Line

/-- A text with a phrase in parentheses, and a reference. -/
def phrasedLine : String :=
  "// Mitigates Web:API against xss with escaping (HTML) output (CWE-79)"

/-- The phrase is taken for the beginning of the reference. -/
theorem phrasedLine_reference_unbalanced :
    Balanced (dropLineEnd phrasedLine.toList) ∧
      ofLine? phrasedLine =
        some (.item (.mitigation "Web:API" "xss" "escaping" (some "HTML) output (CWE-79"))) ∧
      ¬Balanced "HTML) output (CWE-79".toList := by
  decide +kernel

/-- A reference that has a phrase in parentheses within it. -/
def citedLine : String :=
  "// Tests pay for double spending (ledger_test.go (TestPay))"

theorem citedLine_reference_balanced :
    ofLine? citedLine =
        some (.item (.test "pay" "double spending" (some "ledger_test.go (TestPay)"))) ∧
      Balanced (dropLineEnd citedLine.toList) ∧
      ∃ last, (["pay", "double spending"] : List String).getLast? = some last ∧
        EndsInReference (dropLineEnd citedLine.toList) last.toList
          "ledger_test.go (TestPay)".toList ∧
        (Balanced "ledger_test.go (TestPay)".toList ↔
          ¬∃ phrase rest, Balanced phrase ∧
            "ledger_test.go (TestPay)".toList = phrase ++ ')' :: rest) := by
  have reads : ofLine? citedLine =
      some (.item (.test "pay" "double spending" (some "ledger_test.go (TestPay)"))) := by
    decide +kernel
  have balanced : Balanced (dropLineEnd citedLine.toList) := by
    decide +kernel
  exact ⟨reads, balanced, reference_balanced_iff reads rfl rfl balanced⟩

end ThreatModel.Entry
