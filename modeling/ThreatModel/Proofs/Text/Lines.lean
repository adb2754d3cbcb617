import ThreatModel.Proofs.Text.Pieces

/-!
Contract: the lines of a text that was put together from lines.

Owns:
- that lines without newlines, joined by newlines, are the lines of the text;
- the text with one line more.

Does not own: line ends other than newlines.
-/

namespace ThreatModel.Text

theorem lines_of_sameLine
    {text : List Char}
    (sameLine : '\n' ∉ text) :
    lines text = [text] := by
  apply splitWhere_of_clear
  intro character member
  exact decide_eq_false fun isBreak => sameLine (isBreak ▸ member)

/-- A newline ends the lines before it, and other lines begin behind it. -/
theorem lines_append_newline (front back : List Char) :
    lines (front ++ '\n' :: back) = lines front ++ lines back :=
  splitWhere_append_cons (decide_eq_true rfl) front back

theorem lines_intercalate
    {texts : List (List Char)}
    (inhabited : texts ≠ [])
    (sameLine : ∀ text ∈ texts, '\n' ∉ text) :
    lines (['\n'].intercalate texts) = texts := by
  induction texts with
  | nil => exact absurd rfl inhabited
  | cons head tail inductionHypothesis =>
      have headSameLine := sameLine head List.mem_cons_self
      cases tail with
      | nil =>
          have single : ['\n'].intercalate [head] = head := by simp [List.intercalate]
          rw [single, lines_of_sameLine headSameLine]
      | cons next rest =>
          have parted : ['\n'].intercalate (head :: next :: rest) =
              head ++ '\n' :: ['\n'].intercalate (next :: rest) := by
            simp [List.intercalate]
          have later := inductionHypothesis (by simp) fun text member =>
            sameLine text (List.mem_cons_of_mem head member)
          rw [parted, lines_append_newline, lines_of_sameLine headSameLine, later]
          rfl

theorem textLines_intercalate
    {texts : List String}
    (inhabited : texts ≠ [])
    (sameLine : ∀ text ∈ texts, '\n' ∉ text.toList) :
    textLines ("\n".intercalate texts) = texts := by
  have split : lines (['\n'].intercalate (texts.map String.toList)) = texts.map String.toList :=
    lines_intercalate (by simpa using inhabited) (by simpa using sameLine)
  have spelled : "\n".toList = ['\n'] := rfl
  rw [textLines, String.toList_intercalate, spelled, split, List.map_map]
  simp [Function.comp_def]

theorem sameLine_of_mem_textLines
    {text line : String}
    (isLine : line ∈ textLines text) :
    '\n' ∉ line.toList := by
  obtain ⟨piece, isPiece, rfl⟩ := List.mem_map.mp isLine
  rw [String.toList_ofList]
  intro member
  have clear := clear_of_mem_splitWhere isPiece '\n' member
  exact of_decide_eq_false clear rfl

/-- A newline at the end of a text makes an empty last line. -/
theorem textLines_append_newline (text : String) :
    textLines (text ++ "\n") = textLines text ++ [""] := by
  have spelled : (text ++ "\n").toList = text.toList ++ '\n' :: [] := by simp
  rw [textLines, spelled, lines_append_newline, List.map_append]
  rfl

/-! ## One line more -/

/-- The text with a further line behind the first `position` ones of its own. -/
def insertLine
    (text : String)
    (position : Nat)
    (line : String) :
    String :=
  "\n".intercalate ((textLines text).insertIdx position line)

theorem textLines_insertLine
    {text line : String}
    (sameLine : '\n' ∉ line.toList)
    {front back : List String}
    (parted : textLines text = front ++ back) :
    textLines (insertLine text front.length line) = front ++ line :: back := by
  have inserted : (textLines text).insertIdx front.length line = front ++ line :: back := by
    rw [parted]
    exact List.modifyTailIdx_add (List.cons line) 0 front back
  rw [insertLine, inserted]
  apply textLines_intercalate
  · simp
  · intro other member
    rw [List.mem_append, List.mem_cons, or_left_comm, ← List.mem_append, ← parted] at member
    rcases member with rfl | isLine
    · exact sameLine
    · exact sameLine_of_mem_textLines isLine

end ThreatModel.Text
