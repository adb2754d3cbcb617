import Mathlib.Data.List.Forall2
import Mathlib.Data.List.Infix
import ThreatModel.Files.Text
import ThreatModel.Proofs.Text.Lines

/-!
Contract: carriage returns at the ends of lines.

Owns:
- texts that differ by further carriage returns before newlines and at the end;
- that such texts have the same lines, but for their line ends;
- that to unify line ends takes only such carriage returns away, where each one has
  a newline behind it, and adds empty lines, where each run of them has;
- the text that is read from a file.

Does not own: what lines say.
-/

namespace ThreatModel.Text

/-! ## Line ends of one line -/

/-- The lines are the same but for their line ends. -/
def SameButEnd (line other : List Char) : Prop :=
  dropLineEnd line = dropLineEnd other

theorem sameButEnd_append_returns
    (line : List Char)
    (count : Nat) :
    SameButEnd line (line ++ List.replicate count '\r') := by
  have isEnd : ∀ character ∈ List.replicate count '\r', isLineEnd character = true := by
    intro character member
    rw [List.eq_of_mem_replicate member]
    rfl
  rw [SameButEnd, dropLineEnd, dropLineEnd, List.reverse_append, List.reverse_replicate,
    List.dropWhile_append_of_pos isEnd]

/-- Nothing is dropped before a character that is no line end. -/
theorem dropLineEnd_append_cons
    {mark : Char}
    (stays : isLineEnd mark = false)
    (front back : List Char) :
    dropLineEnd (front ++ mark :: back) = front ++ mark :: dropLineEnd back := by
  unfold dropLineEnd
  rw [List.reverse_append, List.reverse_cons, List.append_assoc, List.dropWhile_append]
  split
  · rename_i dropped
    simp [List.isEmpty_iff.mp dropped, stays]
  · simp

theorem mem_of_mem_dropLineEnd
    {line : List Char}
    {character : Char}
    (member : character ∈ dropLineEnd line) :
    character ∈ line := by
  have isKept := (List.dropWhile_suffix isLineEnd).subset (List.mem_reverse.mp member)
  exact List.mem_reverse.mp isKept

/-! ## Further carriage returns -/

/-- The other text has the lines of the text, each with any number of further carriage returns,
which stand right before the newlines and at the end. -/
inductive Returned : (text other : List Char) → Prop where
  | last {line : List Char} (count : Nat)
      (sameLine : '\n' ∉ line) :
      Returned line (line ++ List.replicate count '\r')
  | next {line text other : List Char} (count : Nat)
      (sameLine : '\n' ∉ line)
      (later : Returned text other) :
      Returned (line ++ '\n' :: text) (line ++ List.replicate count '\r' ++ '\n' :: other)

theorem sameLine_append_returns
    {line : List Char}
    (sameLine : '\n' ∉ line)
    (count : Nat) :
    '\n' ∉ line ++ List.replicate count '\r' := by
  intro member
  rcases List.mem_append.mp member with inLine | isReturn
  · exact sameLine inLine
  · exact absurd (List.eq_of_mem_replicate isReturn) (by decide)

/-- No line is cut, and each is the same but for its line end. -/
theorem Returned.sameButEnd
    {text other : List Char}
    (returned : Returned text other) :
    List.Forall₂ SameButEnd (lines text) (lines other) := by
  induction returned with
  | last count sameLine =>
      rw [lines_of_sameLine sameLine, lines_of_sameLine (sameLine_append_returns sameLine count)]
      exact .cons (sameButEnd_append_returns _ count) .nil
  | next count sameLine _ inductionHypothesis =>
      rw [lines_append_newline, lines_append_newline, lines_of_sameLine sameLine,
        lines_of_sameLine (sameLine_append_returns sameLine count)]
      exact .cons (sameButEnd_append_returns _ count) inductionHypothesis

/-- A character in front belongs to the first line. -/
theorem Returned.cons
    {text other : List Char}
    (returned : Returned text other)
    {character : Char}
    (unbroken : character ≠ '\n') :
    Returned (character :: text) (character :: other) := by
  have stillSameLine {line : List Char} (sameLine : '\n' ∉ line) : '\n' ∉ character :: line := by
    rw [List.mem_cons, not_or]
    exact ⟨unbroken.symm, sameLine⟩
  cases returned with
  | last count sameLine => exact .last count (stillSameLine sameLine)
  | next count sameLine later => exact .next count (stillSameLine sameLine) later

/-! ## Unified line ends -/

/-- Right behind each carriage return there is a newline. -/
def ReturnsPaired (text : List Char) : Prop :=
  ∀ back, '\r' :: back <:+ text → back.head? = some '\n'

theorem returnsPaired_iff {text : List Char} :
    (∀ rest ∈ text.tails, rest.head? = some '\r' → rest.tail.head? = some '\n') ↔
      ReturnsPaired text := by
  simp only [List.mem_tails]
  constructor
  · intro paired back isSuffix
    exact paired _ isSuffix rfl
  · intro paired rest isSuffix startsWithReturn
    obtain ⟨back, rfl⟩ := List.head?_eq_some_iff.mp startsWithReturn
    exact paired back isSuffix

instance (text : List Char) : Decidable (ReturnsPaired text) :=
  decidable_of_iff _ returnsPaired_iff

theorem ReturnsPaired.of_cons
    {character : Char}
    {text : List Char}
    (paired : ReturnsPaired (character :: text)) :
    ReturnsPaired text :=
  fun back isSuffix => paired back (isSuffix.trans (List.suffix_cons character text))

/-- What is taken away stands before newlines. -/
theorem returned_unifyLineEnds
    {text : List Char}
    (paired : ReturnsPaired text) :
    Returned (unifyLineEnds text) text := by
  induction text using unifyLineEnds.induct with
  | case1 => exact .last 0 List.not_mem_nil
  | case2 rest inductionHypothesis =>
      exact .next 1 List.not_mem_nil (inductionHypothesis paired.of_cons.of_cons)
  | case3 rest unpaired _ =>
      obtain ⟨later, rfl⟩ := List.head?_eq_some_iff.mp (paired rest (List.suffix_refl _))
      exact absurd rfl (unpaired later)
  | case4 character rest noPair noReturn inductionHypothesis =>
      have later := inductionHypothesis paired.of_cons
      rw [unifyLineEnds]
      · by_cases isNewline : character = '\n'
        · rw [isNewline]
          exact .next 0 List.not_mem_nil later
        · exact later.cons isNewline
      · exact noPair
      · exact noReturn

/-! ## Runs of carriage returns -/

/-- Behind each run of carriage returns there is a newline, or the text ends. -/
def ReturnsEnd (text : List Char) : Prop :=
  ∀ rest, rest <:+ text → rest.head? = some '\r' →
    ∀ next ∈ (rest.dropWhile (· = '\r')).head?, next = '\n'

instance (text : List Char) : Decidable (ReturnsEnd text) :=
  decidable_of_iff
    (∀ rest ∈ text.tails, rest.head? = some '\r' →
      (rest.dropWhile (· = '\r')).head?.all (· = '\n'))
    (by simp [ReturnsEnd, Option.all_eq_true])

theorem ReturnsEnd.of_cons
    {character : Char}
    {text : List Char}
    (ended : ReturnsEnd (character :: text)) :
    ReturnsEnd text :=
  fun rest isSuffix => ended rest (isSuffix.trans (List.suffix_cons character text))

/-- The other lines are the lines, but for their line ends, and any number of empty lines behind
each of them. -/
inductive Spaced : (lines others : List (List Char)) → Prop where
  | nil : Spaced [] []
  | cons {line other : List Char} {gap lines others : List (List Char)}
      (same : SameButEnd line other)
      (empty : ∀ added ∈ gap, SameButEnd added [])
      (later : Spaced lines others) :
      Spaced (line :: lines) (other :: (gap ++ others))

theorem lines_newline_cons (text : List Char) : lines ('\n' :: text) = [] :: lines text :=
  lines_append_newline [] text

theorem lines_cons
    {character : Char}
    (unbroken : character ≠ '\n')
    (text : List Char) :
    lines (character :: text) = (lines text).modifyHead (character :: ·) :=
  if_neg fun isBreak => unbroken (of_decide_eq_true isBreak)

theorem Spaced.modifyHead
    {lines others : List (List Char)}
    (spaced : Spaced lines others)
    {character : Char}
    (stays : isLineEnd character = false) :
    Spaced (lines.modifyHead (character :: ·)) (others.modifyHead (character :: ·)) := by
  cases spaced with
  | nil => exact .nil
  | @cons line other gap lines others same empty later =>
      have sameLonger : SameButEnd (character :: line) (character :: other) := by
        have kept (text : List Char) : dropLineEnd (character :: text) = character :: dropLineEnd text :=
          dropLineEnd_append_cons stays [] text
        rw [SameButEnd, kept, kept, same]
      exact .cons sameLonger empty later

/-- Returns that end make a line that is empty but for its end. -/
theorem exists_lines_of_returns
    {text : List Char}
    (ended : ∀ next ∈ (text.dropWhile (· = '\r')).head?, next = '\n') :
    ∃ count later, lines text = List.replicate count '\r' :: later := by
  induction text with
  | nil => exact ⟨0, [], rfl⟩
  | cons character rest inductionHypothesis =>
      by_cases isReturn : character = '\r'
      · subst isReturn
        obtain ⟨count, later, parted⟩ := inductionHypothesis ended
        refine ⟨count + 1, later, ?_⟩
        rw [lines_cons (by decide), parted]
        rfl
      · rw [List.dropWhile_cons_of_neg (by simpa using isReturn)] at ended
        rw [ended character rfl]
        exact ⟨0, lines rest, lines_newline_cons rest⟩

/-- A run of returns before a newline, or at the end, becomes empty lines. -/
theorem spaced_unifyLineEnds
    {text : List Char}
    (ended : ReturnsEnd text) :
    Spaced (lines text) (lines (unifyLineEnds text)) := by
  induction text using unifyLineEnds.induct with
  | case1 => exact .cons rfl (List.forall_mem_nil _) .nil
  | case2 rest inductionHypothesis =>
      have isLine : lines ('\r' :: '\n' :: rest) = ['\r'] :: lines rest :=
        lines_append_newline ['\r'] rest
      rw [isLine, unifyLineEnds, lines_newline_cons]
      exact .cons (sameButEnd_append_returns [] 1).symm (List.forall_mem_nil _)
        (inductionHypothesis ended.of_cons.of_cons)
  | case3 rest unpaired inductionHypothesis =>
      have restEnded : ∀ next ∈ (rest.dropWhile (· = '\r')).head?, next = '\n' :=
        ended ('\r' :: rest) (List.suffix_refl _) rfl
      obtain ⟨count, later, parted⟩ := exists_lines_of_returns restEnded
      have spaced := inductionHypothesis ended.of_cons
      rw [unifyLineEnds, lines_newline_cons, lines_cons (by decide), parted]
      · rw [parted] at spaced
        generalize lines (unifyLineEnds rest) = others at spaced ⊢
        -- What the other returns of the run have become is one more empty line in the gap.
        cases spaced with
        | @cons _ other gap _ others same empty later =>
            have isEmpty : SameButEnd other [] :=
              same.symm.trans (sameButEnd_append_returns [] count).symm
            have wider : ∀ added ∈ other :: gap, SameButEnd added [] :=
              List.forall_mem_cons.mpr ⟨isEmpty, empty⟩
            exact .cons (sameButEnd_append_returns [] (count + 1)).symm wider later
      · exact unpaired
  | case4 character rest noPair noReturn inductionHypothesis =>
      have later := inductionHypothesis ended.of_cons
      rw [unifyLineEnds]
      · by_cases isNewline : character = '\n'
        · rw [isNewline, lines_newline_cons, lines_newline_cons]
          exact .cons rfl (List.forall_mem_nil _) later
        · have stays : isLineEnd character = false := by
            have notReturn : character ≠ '\r' := noReturn
            simp [isLineEnd, isNewline, notReturn]
          rw [lines_cons isNewline, lines_cons isNewline]
          exact later.modifyHead stays
      · exact noPair
      · exact noReturn

end ThreatModel.Text

namespace ThreatModel.Files

theorem readText_of_decode
    {tree : Tree}
    {path content : String}
    {octets : List UInt8}
    (isFile : tree.readOctets path = .ok octets)
    (isText : decode octets = .ok content) :
    readText tree path = .ok (String.ofList (Text.unifyLineEnds content.toList)) := by
  rw [readText, isFile]
  dsimp only
  rw [isText]
  rfl

end ThreatModel.Files
