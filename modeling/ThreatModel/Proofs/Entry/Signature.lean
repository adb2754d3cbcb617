import ThreatModel.Proofs.Entry.Shape

/-!
Contract: the signature lines of code, and the choice among the ways in which a line is one.

Owns:
- the fits of a signature line, and the one with the longest gap behind the
  keyword, and then with the shortest name and the shortest parameters;
- the agreement of the reader of signature lines with this choice.

Does not own: which declared function a signature belongs to.
-/

namespace ThreatModel.Entry

open ThreatModel.Text

variable {α : Type}

/-- A name, a parenthesis, and a text up to a brace, around which and behind which stand blanks. -/
structure PartsFit (text name parameters : List Char) : Prop where
  isName : IsField name
  sameLine : '\n' ∉ parameters
  parted : ∃ between after,
    allBlank between = true ∧ allBlank after = true ∧
      text = name ++ '(' :: (parameters ++ (between ++ '\x7b' :: after))

/-- The line is a signature; `gap` is what stands between its keyword and its name. -/
structure SignatureFits (line gap name parameters : List Char) : Prop where
  inhabited : gap ≠ []
  blank : allBlank gap = true
  parted : ∃ before text,
    allBlank before = true ∧ PartsFit text name parameters ∧
      line = before ++ (['f', 'u', 'n', 'c'] ++ (gap ++ text))

/-- Of the fits of a line, one with the longest gap, among these one with the shortest name, and
among these the one with the shortest parameters. -/
structure SignatureFitsLeast (line gap name parameters : List Char) : Prop where
  fits : SignatureFits line gap name parameters
  longestGap : ∀ otherGap other otherParameters,
    SignatureFits line otherGap other otherParameters → otherGap.length ≤ gap.length
  shortestName : ∀ other otherParameters,
    SignatureFits line gap other otherParameters → name.length ≤ other.length
  shortestParameters : ∀ otherParameters,
    SignatureFits line gap name otherParameters → parameters.length ≤ otherParameters.length

/-! ## Gaps -/

/-- The text begins with a gap behind which `follow` reads. -/
structure Gap
    (follow : List Char → Option α)
    (text gap : List Char)
    (found : α) :
    Prop where
  inhabited : gap ≠ []
  blank : allBlank gap = true
  parted : ∃ rest, text = gap ++ rest ∧ follow rest = some found

section Gaps

variable {follow : List Char → Option α}

/-- A gap of more than one character is one character longer than a gap behind the first. -/
theorem Gap.cons_iff
    {character : Char}
    {rest gap : List Char}
    {found : α} :
    Gap follow (character :: rest) gap found ↔
      isBlank character = true ∧
        ((gap = [character] ∧ follow rest = some found) ∨
          ∃ tail, gap = character :: tail ∧ Gap follow rest tail found) := by
  constructor
  · rintro ⟨inhabited, blank, back, parted, follows⟩
    cases gap with
    | nil => exact absurd rfl inhabited
    | cons head tail =>
        rw [List.cons_append, List.cons.injEq] at parted
        obtain ⟨rfl, parted⟩ := parted
        rw [allBlank_cons, Bool.and_eq_true] at blank
        refine ⟨blank.1, ?_⟩
        cases tail with
        | nil =>
            rw [List.nil_append] at parted
            exact .inl ⟨rfl, parted ▸ follows⟩
        | cons next later =>
            exact .inr ⟨next :: later, rfl, by simp, blank.2, back, parted, follows⟩
  · rintro ⟨blank, ⟨rfl, follows⟩ | ⟨tail, rfl, ⟨_, tailBlank, back, rfl, follows⟩⟩⟩
    · exact ⟨by simp, by simp [blank], rest, rfl, follows⟩
    · exact ⟨by simp, by simp [blank, tailBlank], back, rfl, follows⟩

/-- Where there is a gap, one is skipped. -/
theorem afterBlanks?_complete
    {text gap : List Char}
    {found : α}
    (isGap : Gap follow text gap found) :
    ∃ chosen, afterBlanks? follow text = some chosen := by
  induction text generalizing gap with
  | nil =>
      obtain ⟨inhabited, _, rest, parted, _⟩ := isGap
      exact absurd (List.append_eq_nil_iff.mp parted.symm).1 inhabited
  | cons character rest inductionHypothesis =>
      obtain ⟨blank, ⟨_, follows⟩ | ⟨tail, _, later⟩⟩ := Gap.cons_iff.mp isGap
      · rw [afterBlanks?, if_pos blank, follows]
        cases afterBlanks? follow rest with
        | none => exact ⟨found, rfl⟩
        | some chosen => exact ⟨chosen, rfl⟩
      · obtain ⟨chosen, reads⟩ := inductionHypothesis later
        exact ⟨chosen, by rw [afterBlanks?, if_pos blank, reads, Option.some_or]⟩

/-- The gap that is skipped is a longest one. -/
theorem afterBlanks?_sound
    {text : List Char}
    {found : α}
    (reads : afterBlanks? follow text = some found) :
    ∃ gap,
      Gap follow text gap found ∧
        ∀ other otherFound, Gap follow text other otherFound → other.length ≤ gap.length := by
  induction text with
  | nil => cases reads
  | cons character rest inductionHypothesis =>
      rw [afterBlanks?, Option.ite_none_right_eq_some, Option.or_eq_some_iff] at reads
      obtain ⟨blank, later | ⟨stuck, follows⟩⟩ := reads
      · obtain ⟨gap, isGap, longest⟩ := inductionHypothesis later
        refine ⟨character :: gap, Gap.cons_iff.mpr ⟨blank, .inr ⟨gap, rfl, isGap⟩⟩, ?_⟩
        intro other otherFound otherGap
        obtain ⟨_, ⟨rfl, _⟩ | ⟨tail, rfl, tailGap⟩⟩ := Gap.cons_iff.mp otherGap
        · simp
        · have shorter := longest tail otherFound tailGap
          simpa using shorter
      · refine ⟨[character], Gap.cons_iff.mpr ⟨blank, .inl ⟨rfl, follows⟩⟩, ?_⟩
        intro other otherFound otherGap
        obtain ⟨_, ⟨rfl, _⟩ | ⟨tail, rfl, tailGap⟩⟩ := Gap.cons_iff.mp otherGap
        · simp
        · obtain ⟨chosen, skipped⟩ := afterBlanks?_complete tailGap
          rw [stuck] at skipped
          cases skipped

end Gaps

/-! ## Name and parameters -/

theorem bracedEnd?_eq_some_iff {rest : List Char} :
    bracedEnd? rest = some () ↔
      ∃ between after,
        allBlank between = true ∧ allBlank after = true ∧ rest = between ++ '\x7b' :: after := by
  unfold bracedEnd?
  constructor
  · intro reads
    split at reads
    · rename_i after opened
      obtain ⟨between, blankBetween, rfl⟩ := (trimStart_eq_cons_iff (by decide)).mp opened
      rw [Option.ite_none_right_eq_some] at reads
      exact ⟨between, after, blankBetween, reads.1, rfl⟩
    · cases reads
  · rintro ⟨between, after, blankBetween, blankAfter, rfl⟩
    have opened : trimStart (between ++ '\x7b' :: after) = '\x7b' :: after :=
      (trimStart_eq_cons_iff (by decide)).mpr ⟨between, blankBetween, rfl⟩
    simp only [opened, blankAfter, if_true]

/-- The reader of what follows a name. -/
def parameters? (rest : List Char) : Option (List Char) :=
  (after? ['('] rest).bind fun inner => (shortest bracedEnd? inner).map Prod.fst

theorem signatureParts?_eq (text : List Char) :
    signatureParts? text = shortestField parameters? text :=
  rfl

theorem partsFit_iff
    {text name parameters : List Char} :
    PartsFit text name parameters ↔
      IsField name ∧ ∃ inner, text = name ++ '(' :: inner ∧ Reaches bracedEnd? inner parameters () := by
  constructor
  · rintro ⟨isName, sameLine, between, after, blankBetween, blankAfter, rfl⟩
    exact ⟨isName, _, rfl, sameLine, _, rfl,
      bracedEnd?_eq_some_iff.mpr ⟨between, after, blankBetween, blankAfter, rfl⟩⟩
  · rintro ⟨isName, inner, rfl, sameLine, rest, rfl, ends⟩
    obtain ⟨between, after, blankBetween, blankAfter, rfl⟩ := bracedEnd?_eq_some_iff.mp ends
    exact ⟨isName, sameLine, between, after, blankBetween, blankAfter, rfl⟩

theorem parameters?_eq_some_iff {rest parameters : List Char} :
    parameters? rest = some parameters ↔
      ∃ inner,
        rest = '(' :: inner ∧ Reaches bracedEnd? inner parameters () ∧
          ∀ other, Reaches bracedEnd? inner other () → parameters.length ≤ other.length := by
  simp only [parameters?, Option.bind_eq_some_iff, after?_eq_some_iff, Option.map_eq_some_iff,
    List.singleton_append]
  constructor
  · rintro ⟨inner, rfl, ⟨_, ⟨⟩⟩, chosen, rfl⟩
    obtain ⟨reading, least⟩ := shortest_sound chosen
    exact ⟨inner, rfl, reading, fun other => least other ()⟩
  · rintro ⟨inner, rfl, reading, least⟩
    exact ⟨inner, rfl, (parameters, ()),
      shortest_eq_some_iff.mpr ⟨reading, fun other _ => least other⟩, rfl⟩

theorem signatureParts?_complete
    {text name parameters : List Char}
    (fits : PartsFit text name parameters) :
    ∃ found, signatureParts? text = some found := by
  obtain ⟨isName, inner, rfl, reading⟩ := partsFit_iff.mp fits
  obtain ⟨⟨chosen, ⟨⟩⟩, reads⟩ := shortest_complete reading
  have follows : parameters? ('(' :: inner) = some chosen := by
    simp [parameters?, after?, reads]
  exact shortestField_complete isName.inhabited ⟨isName.sameLine, _, rfl, follows⟩

/-- Name and parameters are a shortest name with the shortest parameters behind it. -/
theorem signatureParts?_eq_some_iff {text name parameters : List Char} :
    signatureParts? text = some (name, parameters) ↔
      PartsFit text name parameters ∧
        (∀ other otherParameters, PartsFit text other otherParameters →
          name.length ≤ other.length) ∧
        ∀ otherParameters, PartsFit text name otherParameters →
          parameters.length ≤ otherParameters.length := by
  rw [signatureParts?_eq, shortestField_eq_some_iff]
  constructor
  · rintro ⟨inhabited, ⟨sameLine, rest, rfl, follows⟩, shortestName⟩
    obtain ⟨inner, rfl, reading, shortestParameters⟩ := parameters?_eq_some_iff.mp follows
    refine ⟨partsFit_iff.mpr ⟨⟨inhabited, sameLine⟩, inner, rfl, reading⟩, ?_, ?_⟩
    · intro other otherParameters otherFits
      obtain ⟨isName, otherInner, parted, otherReading⟩ := partsFit_iff.mp otherFits
      obtain ⟨⟨chosen, ⟨⟩⟩, reads⟩ := shortest_complete otherReading
      have otherFollows : parameters? ('(' :: otherInner) = some chosen := by
        simp [parameters?, after?, reads]
      exact shortestName other chosen isName.inhabited
        ⟨isName.sameLine, _, parted, otherFollows⟩
    · intro otherParameters otherFits
      obtain ⟨_, otherInner, parted, otherReading⟩ := partsFit_iff.mp otherFits
      have sameRest := List.append_cancel_left parted
      rw [List.cons.injEq] at sameRest
      rw [← sameRest.2] at otherReading
      exact shortestParameters otherParameters otherReading
  · rintro ⟨fits, shortestName, shortestParameters⟩
    obtain ⟨isName, inner, rfl, reading⟩ := partsFit_iff.mp fits
    refine ⟨isName.inhabited, ⟨isName.sameLine, _, rfl, ?_⟩, ?_⟩
    · rw [parameters?_eq_some_iff]
      refine ⟨inner, rfl, reading, fun other otherReading => ?_⟩
      exact shortestParameters other (partsFit_iff.mpr ⟨isName, inner, rfl, otherReading⟩)
    · rintro other otherParameters inhabited ⟨sameLine, rest, parted, follows⟩
      obtain ⟨otherInner, rfl, otherReading, _⟩ := parameters?_eq_some_iff.mp follows
      exact shortestName other otherParameters
        (partsFit_iff.mpr ⟨⟨inhabited, sameLine⟩, otherInner, parted, otherReading⟩)

/-! ## Signature lines -/

/-- The text behind the keyword of a signature line. -/
theorem afterKeyword_eq_some_iff {line rest : List Char} :
    after? ['f', 'u', 'n', 'c'] (trimStart line) = some rest ↔
      ∃ before, allBlank before = true ∧ line = before ++ (['f', 'u', 'n', 'c'] ++ rest) := by
  rw [after?_eq_some_iff]
  exact trimStart_eq_cons_iff (by decide)

/-- A fit of a line, by the text behind its keyword. -/
theorem signatureFits_iff
    {line rest : List Char}
    (begun : after? ['f', 'u', 'n', 'c'] (trimStart line) = some rest)
    {gap name parameters : List Char} :
    SignatureFits line gap name parameters ↔
      gap ≠ [] ∧ allBlank gap = true ∧
        ∃ text, rest = gap ++ text ∧ PartsFit text name parameters := by
  constructor
  · rintro ⟨inhabited, blank, before, text, blankBefore, fits, parted⟩
    have otherBegun := afterKeyword_eq_some_iff.mpr ⟨before, blankBefore, parted⟩
    rw [begun] at otherBegun
    exact ⟨inhabited, blank, text, Option.some.inj otherBegun, fits⟩
  · rintro ⟨inhabited, blank, text, rfl, fits⟩
    obtain ⟨before, blankBefore, parted⟩ := afterKeyword_eq_some_iff.mp begun
    exact ⟨inhabited, blank, before, text, blankBefore, fits, parted⟩

theorem exists_rest_of_signatureFits
    {line gap name parameters : List Char}
    (fits : SignatureFits line gap name parameters) :
    ∃ rest, after? ['f', 'u', 'n', 'c'] (trimStart line) = some rest := by
  obtain ⟨_, _, before, text, blankBefore, _, parted⟩ := fits
  exact ⟨gap ++ text, afterKeyword_eq_some_iff.mpr ⟨before, blankBefore, parted⟩⟩

theorem signature?_complete
    {line gap name parameters : List Char}
    (fits : SignatureFits line gap name parameters) :
    ∃ found, signature? line = some found := by
  obtain ⟨rest, begun⟩ := exists_rest_of_signatureFits fits
  obtain ⟨inhabited, blank, text, parted, partsFit⟩ := (signatureFits_iff begun).mp fits
  obtain ⟨found, reads⟩ := signatureParts?_complete partsFit
  obtain ⟨chosen, skipped⟩ := afterBlanks?_complete ⟨inhabited, blank, text, parted, reads⟩
  exact ⟨chosen, by rw [signature?, begun, Option.bind_some, skipped]⟩

theorem signature?_eq_some_iff {line name parameters : List Char} :
    signature? line = some (name, parameters) ↔
      ∃ gap, SignatureFitsLeast line gap name parameters := by
  constructor
  · intro reads
    obtain ⟨rest, begun, skipped⟩ := Option.bind_eq_some_iff.mp reads
    obtain ⟨gap, ⟨inhabited, blank, text, rfl, parts⟩, longest⟩ := afterBlanks?_sound skipped
    obtain ⟨partsFit, shortestName, shortestParameters⟩ := signatureParts?_eq_some_iff.mp parts
    have sameText {other otherParameters : List Char}
        (otherFits : SignatureFits line gap other otherParameters) :
        PartsFit text other otherParameters := by
      obtain ⟨_, _, otherText, parted, otherParts⟩ := (signatureFits_iff begun).mp otherFits
      rwa [List.append_cancel_left parted]
    refine ⟨gap, (signatureFits_iff begun).mpr ⟨inhabited, blank, text, rfl, partsFit⟩, ?_, ?_, ?_⟩
    · intro otherGap other otherParameters otherFits
      obtain ⟨otherInhabited, otherBlank, otherText, parted, otherParts⟩ :=
        (signatureFits_iff begun).mp otherFits
      obtain ⟨found, otherReads⟩ := signatureParts?_complete otherParts
      exact longest otherGap found ⟨otherInhabited, otherBlank, otherText, parted, otherReads⟩
    · intro other otherParameters otherFits
      exact shortestName other otherParameters (sameText otherFits)
    · intro otherParameters otherFits
      exact shortestParameters otherParameters (sameText otherFits)
  · rintro ⟨gap, fits, longestGap, shortestName, shortestParameters⟩
    obtain ⟨rest, begun⟩ := exists_rest_of_signatureFits fits
    obtain ⟨inhabited, blank, text, rfl, partsFit⟩ := (signatureFits_iff begun).mp fits
    have fitsOf {other otherParameters : List Char}
        (otherParts : PartsFit text other otherParameters) :
        SignatureFits line gap other otherParameters :=
      (signatureFits_iff begun).mpr ⟨inhabited, blank, text, rfl, otherParts⟩
    have parts : signatureParts? text = some (name, parameters) :=
      signatureParts?_eq_some_iff.mpr
        ⟨partsFit, fun other _ otherParts => shortestName other _ (fitsOf otherParts),
          fun _ otherParts => shortestParameters _ (fitsOf otherParts)⟩
    obtain ⟨chosen, skipped⟩ := afterBlanks?_complete ⟨inhabited, blank, text, rfl, parts⟩
    obtain ⟨chosenGap, ⟨chosenInhabited, chosenBlank, chosenText, parted, chosenParts⟩, longest⟩ :=
      afterBlanks?_sound skipped
    -- Both gaps are longest ones, so the same text stands behind them.
    have sameLength : gap.length = chosenGap.length := by
      apply Nat.le_antisymm
      · exact longest gap (name, parameters) ⟨inhabited, blank, text, rfl, parts⟩
      · obtain ⟨chosenFit, _⟩ := signatureParts?_eq_some_iff.mp chosenParts
        exact longestGap chosenGap _ _
          ((signatureFits_iff begun).mpr
            ⟨chosenInhabited, chosenBlank, chosenText, parted, chosenFit⟩)
    obtain ⟨rfl, rfl⟩ := List.append_inj parted sameLength
    rw [parts] at chosenParts
    rw [signature?, begun, Option.bind_some, skipped, chosenParts]

end ThreatModel.Entry
