import ThreatModel.Proofs.Entry.Printer
import ThreatModel.Proofs.Text.Marks
import ThreatModel.Proofs.Text.Pieces

/-!
Contract: the lines at which functions and methods begin.

Owns:
- headers: a name, perhaps with a receiver before it, and parameters that may have
  parentheses and braces among them;
- that the line of a header is read as the signature of that header and of no other;
- the declared names that a header is of.

Does not own: what the parameters are.
-/

namespace ThreatModel.Entry

open ThreatModel.Text

/-- A line that begins a function, in its parts: `after` stands behind the brace, and `parameters`
is all that stands between the parenthesis behind the name and the last brace. -/
structure Header where
  before : List Char
  gap : List Char
  receiver : Option (List Char)
  name : List Char
  parameters : List Char
  between : List Char
  after : List Char
  blankBefore : allBlank before = true
  parted : gap ≠ []
  blankGap : allBlank gap = true
  receiverUnopened : ∀ text ∈ receiver, '(' ∉ text
  receiverSameLine : ∀ text ∈ receiver, '\n' ∉ text
  named : name ≠ []
  nameInked : ∀ character ∈ name, isBlank character = false
  nameUnopened : '(' ∉ name
  nameDotless : '.' ∉ name
  parametersSameLine : '\n' ∉ parameters
  parametersInked : EndsInked parameters
  blankBetween : allBlank between = true
  blankAfter : allBlank after = true

namespace Header

variable (header : Header)

/-- The name with the receiver before it. -/
def title : List Char :=
  match header.receiver with
  | none => header.name
  | some receiver => '(' :: (receiver ++ [')']) ++ ' ' :: header.name

def code : List Char :=
  header.title ++ '(' :: header.parameters

/-- The code and the brace, with `after` behind the brace. -/
def codeText (after : List Char) : List Char :=
  header.title ++ '(' :: (header.parameters ++ (header.between ++ '\x7b' :: after))

/-- The whole line, with `after` behind the brace. -/
def lineText (after : List Char) : List Char :=
  header.before ++ (['f', 'u', 'n', 'c'] ++ (header.gap ++ header.codeText after))

def line : String :=
  String.ofList (header.lineText header.after)

/-! ## The title -/

/-- Only the first character of a title can be an opening parenthesis. -/
theorem exists_title_eq_cons :
    ∃ head tail, header.title = head :: tail ∧ isBlank head = false ∧ '(' ∉ tail := by
  unfold title
  cases isReceiver : header.receiver with
  | none =>
      obtain ⟨head, tail, spelled⟩ := List.exists_cons_of_ne_nil header.named
      have inked := header.nameInked
      have unopened := header.nameUnopened
      rw [spelled] at inked unopened
      exact ⟨head, tail, spelled, inked head List.mem_cons_self,
        fun member => unopened (List.mem_cons_of_mem head member)⟩
  | some receiver =>
      refine ⟨'(', receiver ++ [')'] ++ ' ' :: header.name, rfl, by decide, ?_⟩
      have unopened := header.receiverUnopened receiver isReceiver
      simp [unopened, header.nameUnopened]

theorem isField_title : IsField header.title := by
  obtain ⟨head, tail, spelled, _⟩ := header.exists_title_eq_cons
  refine ⟨by simp [spelled], fun member => ?_⟩
  have nameSameLine : '\n' ∉ header.name := fun inName =>
    absurd (header.nameInked _ inName) (by decide)
  unfold title at member
  cases isReceiver : header.receiver with
  | none =>
      rw [isReceiver] at member
      exact nameSameLine member
  | some receiver =>
      have receiverSameLine := header.receiverSameLine receiver isReceiver
      rw [isReceiver] at member
      simp [receiverSameLine, nameSameLine] at member

theorem getLast?_words_title : (words header.title).getLast? = some header.name := by
  have word := words_of_inked header.named header.nameInked
  unfold title
  cases header.receiver with
  | none => rw [word, List.getLast?_singleton]
  | some receiver => rw [words_append_cons (by decide), word, List.getLast?_concat]

/-! ## The fit of the line -/

theorem partsFit
    {after : List Char}
    (blankAfter : allBlank after = true) :
    PartsFit (header.codeText after) header.title header.parameters :=
  ⟨header.isField_title, header.parametersSameLine, header.between, after, header.blankBetween,
    blankAfter, rfl⟩

/-- A shorter name would begin like the title and have a parenthesis behind it. -/
theorem length_title_le
    {after name parameters : List Char}
    (fits : PartsFit (header.codeText after) name parameters) :
    header.title.length ≤ name.length := by
  obtain ⟨isName, _, between, otherAfter, _, _, same⟩ := fits
  obtain ⟨head, tail, spelled, _, unopened⟩ := header.exists_title_eq_cons
  obtain ⟨first, rest, rfl⟩ := List.exists_cons_of_ne_nil isName.inhabited
  rw [codeText, spelled] at same
  obtain ⟨_, same⟩ := List.cons.inj same
  rw [spelled]
  by_contra shorter
  have restShorter : rest.length < tail.length := by simpa using shorter
  have restUnopened := not_mem_of_shorter same restShorter unopened
  obtain ⟨rfl, _⟩ := append_cons_inj_of_first unopened restUnopened same
  exact Nat.lt_irrefl _ restShorter

/-- The last brace is the last character of the line that is not blank, and shorter parameters would
leave more than blanks before it. -/
theorem length_parameters_le
    {after parameters : List Char}
    (blankAfter : allBlank after = true)
    (fits : PartsFit (header.codeText after) header.title parameters) :
    header.parameters.length ≤ parameters.length := by
  obtain ⟨_, _, between, otherAfter, blankBetween, blankOther, same⟩ := fits
  obtain ⟨_, same⟩ := List.cons.inj (List.append_cancel_left same)
  rw [← List.append_assoc, ← List.append_assoc] at same
  obtain ⟨beforeBrace, _⟩ :=
    append_cons_inj_of_allBlank (by decide) (by decide) blankAfter blankOther same
  obtain ⟨rest, isRest, _⟩ | ⟨rest, isRest, isBetween⟩ := List.append_eq_append_iff.mp beforeBrace
  · simp [isRest]
  · rw [isBetween, allBlank_append, Bool.and_eq_true] at blankBetween
    have nothing : rest = [] := by
      by_contra inhabited
      have inked := header.parametersInked
      rw [isRest] at inked
      exact not_allBlank_of_endsInked inked inhabited blankBetween.1
    simp [isRest, nothing]

/-- A longer gap would reach into the title. -/
theorem length_gap_le
    {after gap rest : List Char}
    (blank : allBlank gap = true)
    (same : header.gap ++ header.codeText after = gap ++ rest) :
    gap.length ≤ header.gap.length := by
  obtain ⟨head, tail, spelled, inked, _⟩ := header.exists_title_eq_cons
  obtain ⟨more, rfl, isText⟩ | ⟨more, isGap, _⟩ := List.append_eq_append_iff.mp same
  · cases more with
    | nil => simp
    | cons first others =>
        rw [codeText, spelled] at isText
        obtain ⟨rfl, _⟩ := List.cons.inj isText
        simp [inked] at blank
  · simp [isGap]

theorem signatureFitsLeast
    {after : List Char}
    (blankAfter : allBlank after = true) :
    SignatureFitsLeast (header.lineText after) header.gap header.title header.parameters := by
  have begun : after? ['f', 'u', 'n', 'c'] (trimStart (header.lineText after)) =
      some (header.gap ++ header.codeText after) :=
    afterKeyword_eq_some_iff.mpr ⟨header.before, header.blankBefore, rfl⟩
  have sameText {name parameters : List Char}
      (fits : SignatureFits (header.lineText after) header.gap name parameters) :
      PartsFit (header.codeText after) name parameters := by
    obtain ⟨_, _, other, same, partsFit⟩ := (signatureFits_iff begun).mp fits
    rwa [List.append_cancel_left same]
  constructor
  · exact ⟨header.parted, header.blankGap, header.before, header.codeText after, header.blankBefore,
      header.partsFit blankAfter, rfl⟩
  · intro gap name parameters fits
    obtain ⟨_, blank, other, same, _⟩ := (signatureFits_iff begun).mp fits
    exact header.length_gap_le blank same
  · intro name parameters fits
    exact header.length_title_le (sameText fits)
  · intro parameters fits
    exact header.length_parameters_le blankAfter (sameText fits)

/-! ## The reading of the line -/

theorem dropLineEnd_line :
    dropLineEnd header.line.toList = header.lineText (dropLineEnd header.after) := by
  have isBrace : isLineEnd '\x7b' = false := by decide
  simpa [line, lineText, codeText] using
    dropLineEnd_append_cons isBrace
      (header.before ++ ['f', 'u', 'n', 'c'] ++ header.gap ++ header.title ++
        '(' :: (header.parameters ++ header.between))
      header.after

/-- The line of a header is read as its signature. -/
theorem ofLine?_line :
    ofLine? header.line =
      some (.signature (String.ofList header.code) (String.ofList header.title)) := by
  have blankAfter : allBlank (dropLineEnd header.after) = true :=
    allBlank_iff.mpr fun character member =>
      allBlank_iff.mp header.blankAfter character (mem_of_mem_dropLineEnd member)
  rw [ofLine?_eq_some_iff, dropLineEnd_line]
  refine ⟨header.gap, header.parameters, ?_, ?_⟩
  · rw [String.toList_ofList]
    exact header.signatureFitsLeast blankAfter
  · rw [String.toList_ofList, String.toList_ofList, code]

/-! ## Declared names -/

/-- The declared name is that of the header, or it ends in it behind a dot. -/
def IsOf (function : String) : Prop :=
  function.toList = header.name ∨ ∃ front, function.toList = front ++ '.' :: header.name

theorem signatureMatches_title_iff {function : String} :
    signatureMatches (String.ofList header.title) function = true ↔ header.IsOf function := by
  have dotless : ∀ character ∈ header.name, decide (character = '.') = false :=
    fun character member => decide_eq_false fun isDot => header.nameDotless (isDot ▸ member)
  rw [signatureMatches, String.toList_ofList, header.getLast?_words_title]
  simp only [decide_eq_true_eq, eq_comm (a := header.name), lastPiece_eq_iff dotless, IsOf]
  simp

instance (function : String) : Decidable (header.IsOf function) :=
  decidable_of_iff _ header.signatureMatches_title_iff

end Header

end ThreatModel.Entry
