import ThreatModel.Component.Basic
import ThreatModel.Proofs.Text.Marks
import ThreatModel.Proofs.Text.Pattern

/-!
Contract: keys tell components apart by the letters and digits of their names.

Owns:
- what a character adds to a normal form, whatever stands around it;
- normal texts, the keys that two of them make, and that a key tells both of them;
- the sides of a reference at its first colon;
- respellings of a text, in case and in characters that no key has, under which a
  reference keeps its key.

Does not own: what is known about a component.
-/

namespace ThreatModel

open ThreatModel.Text

namespace Text

/-! ## Lower case of single characters -/

theorem toNat_toLower
    {character : Char}
    (atLeast : 0x41 ≤ character.toNat)
    (atMost : character.toNat ≤ 0x5A) :
    character.toLower.toNat = 0x61 + (character.toNat - 0x41) := by
  have isCapital : character.val ≥ 'A'.val ∧ character.val ≤ 'Z'.val := ⟨atLeast, atMost⟩
  have shift : ('a'.val - 'A'.val).toNat = 0x20 := by
    decide
  have lowered : character.toLower.toNat = (character.val + ('a'.val - 'A'.val)).toNat :=
    congrArg Char.toNat (dif_pos isCapital)
  have value : character.val.toNat = character.toNat := rfl
  rw [lowered, UInt32.toNat_add, shift]
  omega

theorem toLower_of_not_capital
    {character : Char}
    (other : character.toNat < 0x41 ∨ 0x5A < character.toNat) :
    character.toLower = character := by
  have notCapital : ¬(character.val ≥ 'A'.val ∧ character.val ≤ 'Z'.val) := by
    rintro ⟨isAtLeast, isAtMost⟩
    have atLeast : 0x41 ≤ character.toNat := isAtLeast
    have atMost : character.toNat ≤ 0x5A := isAtMost
    omega
  exact dif_neg notCapital

theorem toList_toLower (text : String) : text.toLower.toList = text.toList.map Char.toLower :=
  String.toList_map

theorem lowercaseChar_of_capital
    {character : Char}
    (atLeast : 0x41 ≤ character.toNat)
    (atMost : character.toNat ≤ 0x5A) :
    lowercaseChar character = [character.toLower] := by
  have undotted : character ≠ '\u0130' := by
    rintro rfl
    exact absurd atMost (by decide)
  have inFirst : (0x41 ≤ character.toNat && character.toNat ≤ 0x5A &&
      (character.toNat - 0x41) % 1 == 0) = true := by
    simp [atLeast, atMost, Nat.mod_one]
  have isFirst : capitalRows.find? (fun row =>
      row.1 ≤ character.toNat && character.toNat ≤ row.2.1 &&
        (character.toNat - row.1) % row.2.2.1 == 0) = some (0x41, 0x5A, 1, 0x61) :=
    List.find?_cons_of_pos inFirst
  rw [lowercaseChar, if_neg undotted, lowercaseLetter?, isFirst, Option.map_some, Option.getD_some,
    ← toNat_toLower atLeast atMost, Char.ofNat_toNat]

/-- A character that stands in no row of capitals is its own lower case. -/
theorem lowercaseChar_of_clear
    {character : Char}
    (undotted : character ≠ '\u0130')
    (clear : ∀ row ∈ capitalRows, character.toNat < row.1 ∨ row.2.1 < character.toNat) :
    lowercaseChar character = [character] := by
  have noRow : lowercaseLetter? character = none := by
    rw [lowercaseLetter?, Option.map_eq_none_iff, List.find?_eq_none]
    intro row isRow
    have outside := clear row isRow
    simp only [Bool.and_eq_true, decide_eq_true_iff]
    omega
  rw [lowercaseChar, if_neg undotted, noRow, Option.getD_none]

end Text

namespace Component

/-! ## Normal forms -/

theorem isKeyChar_iff {character : Char} :
    isKeyChar character = true ↔
      (97 ≤ character.toNat ∧ character.toNat ≤ 122) ∨
        (48 ≤ character.toNat ∧ character.toNat ≤ 57) := by
  simp [isKeyChar, Char.le_def, UInt32.le_iff_toNat_le]

theorem isBlank_of_isKeyChar
    {character : Char}
    (isKeyChar : isKeyChar character = true) :
    isBlank character = false := by
  have bounds := isKeyChar_iff.mp isKeyChar
  rw [← Bool.not_eq_true, isBlank, inRanges_iff]
  simp only [blankRanges, List.mem_cons, List.not_mem_nil, or_false, exists_eq_or_imp,
    exists_eq_left]
  omega

/-- What a character adds to a normal form. -/
def keyChars (character : Char) : List Char :=
  (lowercaseChar character).filter isKeyChar

/-- Only the small sigmas depend on what stands around them, and no key has either. -/
theorem filter_lowercaseAfter
    (afterCased : Bool)
    (text : List Char) :
    (lowercaseAfter afterCased text).filter isKeyChar = text.flatMap keyChars := by
  induction text generalizing afterCased with
  | nil => rfl
  | cons head rest inductionHypothesis =>
      rw [lowercaseAfter, List.filter_append, inductionHypothesis, List.flatMap_cons]
      congr 1
      by_cases isSigma : head = '\u03A3'
      · subst isSigma
        have nothing : keyChars '\u03A3' = [] := by
          decide +kernel
        rw [if_pos rfl, nothing]
        split
        · decide
        · decide
      · rw [if_neg isSigma, keyChars]

theorem toList_normalize (text : String) :
    (normalize text).toList = text.toList.flatMap keyChars := by
  rw [normalize, String.toList_ofList, lowercase, filter_lowercaseAfter]

theorem normalize_eq_iff {text other : String} :
    normalize text = normalize other ↔
      text.toList.flatMap keyChars = other.toList.flatMap keyChars := by
  rw [← toList_normalize, ← toList_normalize, String.toList_inj]

theorem normalize_append (front back : String) :
    normalize (front ++ back) = normalize front ++ normalize back := by
  apply String.toList_injective
  rw [toList_normalize, String.toList_append, List.flatMap_append, String.toList_append,
    toList_normalize, toList_normalize]

/-- The text has only letters and digits that a normal form keeps. -/
def IsNormal (text : String) : Prop :=
  ∀ character ∈ text.toList, isKeyChar character = true

instance (text : String) : Decidable (IsNormal text) :=
  inferInstanceAs (Decidable (∀ character ∈ text.toList, isKeyChar character = true))

theorem isNormal_normalize (text : String) : IsNormal (normalize text) := by
  intro character member
  rw [normalize, String.toList_ofList] at member
  exact (List.mem_filter.mp member).2

/-- A capital, a low line or a dash is in no normal text. -/
theorem IsNormal.not_mem
    {text : String}
    (isNormal : IsNormal text)
    {character : Char}
    (other : isKeyChar character = false) :
    character ∉ text.toList := by
  intro member
  rw [isNormal character member] at other
  cases other

theorem keyChars_of_isKeyChar
    {character : Char}
    (isKey : isKeyChar character = true) :
    keyChars character = [character] := by
  have apart : ∀ row ∈ capitalRows, (row.2.1 < 97 ∨ 122 < row.1) ∧ 57 < row.1 := by
    decide +kernel
  have bounds := isKeyChar_iff.mp isKey
  have undotted : character ≠ '\u0130' := by
    rintro rfl
    exact absurd isKey (by decide)
  have clear : ∀ row ∈ capitalRows, character.toNat < row.1 ∨ row.2.1 < character.toNat := by
    intro row isRow
    have outside := apart row isRow
    omega
  rw [keyChars, lowercaseChar_of_clear undotted clear, List.filter_cons_of_pos isKey,
    List.filter_nil]

theorem IsNormal.normalize_eq
    {text : String}
    (isNormal : IsNormal text) :
    normalize text = text := by
  have kept : text.toList.flatMap keyChars = text.toList.flatMap ([·]) :=
    List.flatMap_congr fun character member => keyChars_of_isKeyChar (isNormal character member)
  apply String.toList_injective
  rw [toList_normalize, kept, List.flatMap_singleton']

/-- Capital and small Latin letters add the same. -/
theorem keyChars_toLower (character : Char) :
    keyChars character.toLower = keyChars character := by
  by_cases isCapital : 0x41 ≤ character.toNat ∧ character.toNat ≤ 0x5A
  · have lowered := toNat_toLower isCapital.1 isCapital.2
    have isKey : isKeyChar character.toLower = true := by
      rw [isKeyChar_iff, lowered]
      omega
    rw [keyChars_of_isKeyChar isKey, keyChars,
      lowercaseChar_of_capital isCapital.1 isCapital.2, List.filter_cons_of_pos isKey, List.filter_nil]
  · rw [toLower_of_not_capital (by omega)]

theorem normalize_toLower (text : String) : normalize text.toLower = normalize text := by
  rw [normalize_eq_iff, toList_toLower, List.flatMap_map]
  simp only [keyChars_toLower]

theorem keyChars_of_blank
    {character : Char}
    (blank : isBlank character = true) :
    keyChars character = [] := by
  have apart : ∀ row ∈ capitalRows, ∀ range ∈ blankRanges,
      row.2.1 < range.1 ∨ range.2 < row.1 := by
    decide +kernel
  have undotted : character ≠ '\u0130' := by
    rintro rfl
    exact absurd blank (by decide)
  obtain ⟨range, isRange, inRange⟩ := inRanges_iff.mp blank
  have clear : ∀ row ∈ capitalRows, character.toNat < row.1 ∨ row.2.1 < character.toNat := by
    intro row isRow
    have outside := apart row isRow range isRange
    omega
  have noKey : ¬isKeyChar character = true := by
    intro isKey
    rw [isBlank_of_isKeyChar isKey] at blank
    cases blank
  rw [keyChars, lowercaseChar_of_clear undotted clear, List.filter_cons_of_neg noKey,
    List.filter_nil]

theorem normalize_trim (text : List Char) :
    normalize (String.ofList (trim text)) = normalize (String.ofList text) := by
  have nothing {blanks : List Char} (blank : allBlank blanks = true) :
      blanks.flatMap keyChars = [] :=
    List.flatMap_eq_nil_iff.mpr fun character member =>
      keyChars_of_blank (allBlank_iff.mp blank character member)
  obtain ⟨front, back, frontBlank, backBlank, parted⟩ := exists_trim text
  rw [normalize_eq_iff, String.toList_ofList, String.toList_ofList]
  conv_rhs => rw [parted]
  rw [List.flatMap_append, List.flatMap_append, nothing frontBlank, nothing backBlank,
    List.nil_append, List.append_nil]

/-! ## Keys -/

/-- The text is the key of some component. -/
def IsKey (text : String) : Prop :=
  ∃ zone name, IsNormal zone ∧ IsNormal name ∧ text = zone ++ "-" ++ name

theorem isKey_key (component : Component) : IsKey component.key :=
  ⟨_, _, isNormal_normalize component.zone, isNormal_normalize component.name, rfl⟩

/-- No zone has a dash in it, so that the first dash ends the zone. -/
theorem joined_inj
    {zone name otherZone otherName : String}
    (zoneNormal : IsNormal zone)
    (otherNormal : IsNormal otherZone)
    (same : zone ++ "-" ++ name = otherZone ++ "-" ++ otherName) :
    zone = otherZone ∧ name = otherName := by
  have parted : zone.toList ++ '-' :: name.toList = otherZone.toList ++ '-' :: otherName.toList := by
    simpa using congrArg String.toList same
  obtain ⟨sameZone, sameName⟩ := append_cons_inj_of_first
    (zoneNormal.not_mem (by decide)) (otherNormal.not_mem (by decide)) parted
  exact ⟨String.toList_injective sameZone, String.toList_injective sameName⟩

theorem key_eq_iff {component other : Component} :
    component.key = other.key ↔
      normalize component.zone = normalize other.zone ∧
        normalize component.name = normalize other.name := by
  constructor
  · exact joined_inj (isNormal_normalize _) (isNormal_normalize _)
  · rintro ⟨sameZone, sameName⟩
    rw [key, key, sameZone, sameName]

/-! ## References -/

theorem splitReference?_append
    {zone : List Char}
    (colonless : ':' ∉ zone)
    (name : List Char) :
    splitReference? (zone ++ ':' :: name) = some (zone, name) := by
  induction zone with
  | nil => rfl
  | cons head tail inductionHypothesis =>
      rw [List.mem_cons, not_or] at colonless
      have noColon : ¬head = ':' := fun same => colonless.1 same.symm
      rw [List.cons_append, splitReference?, if_neg noColon, inductionHypothesis colonless.2]
      rfl

theorem eq_of_splitReference?
    {reference zone name : List Char}
    (split : splitReference? reference = some (zone, name)) :
    reference = zone ++ ':' :: name ∧ ':' ∉ zone := by
  induction reference generalizing zone name with
  | nil => cases split
  | cons head rest inductionHypothesis =>
      rw [splitReference?] at split
      by_cases isColon : head = ':'
      · rw [if_pos isColon] at split
        cases split
        rw [isColon, List.nil_append]
        exact ⟨rfl, List.not_mem_nil⟩
      · rw [if_neg isColon, Option.map_eq_some_iff] at split
        obtain ⟨⟨front, back⟩, later, parts⟩ := split
        cases parts
        obtain ⟨joined, colonless⟩ := inductionHypothesis later
        rw [joined, List.cons_append, List.mem_cons, not_or]
        exact ⟨rfl, Ne.symm isColon, colonless⟩

/-- A reference is split at its first colon. -/
theorem splitReference?_eq_some_iff {reference zone name : List Char} :
    splitReference? reference = some (zone, name) ↔
      reference = zone ++ ':' :: name ∧ ':' ∉ zone := by
  constructor
  · exact eq_of_splitReference?
  · rintro ⟨rfl, colonless⟩
    exact splitReference?_append colonless name

/-- Where the reference has a colon, something other than blanks stands on both sides of the first
one. -/
def SidesInked (reference : String) : Prop :=
  ∀ zone name, reference.toList = zone ++ ':' :: name → ':' ∉ zone →
    allBlank zone = false ∧ allBlank name = false

instance (reference : String) : Decidable (SidesInked reference) :=
  decidable_of_iff
    (∀ sides ∈ splitReference? reference.toList,
      allBlank sides.1 = false ∧ allBlank sides.2 = false)
    (by simp [SidesInked, splitReference?_eq_some_iff])

variable {reference : String}

theorem key_ofReference_of_colonless (colonless : splitReference? reference.toList = none) :
    (ofReference reference).key = normalize reference ++ "-" ++ normalize reference := by
  have isWhole : ofReference reference =
      ⟨String.ofList (trim reference.toList), String.ofList (trim reference.toList)⟩ := by
    unfold ofReference
    rw [colonless]
  rw [isWhole, key, normalize_trim, String.ofList_toList]

theorem key_ofReference_of_sides
    (sidesInked : SidesInked reference)
    {zone name : List Char}
    (parted : splitReference? reference.toList = some (zone, name)) :
    (ofReference reference).key =
      normalize (String.ofList zone) ++ "-" ++ normalize (String.ofList name) := by
  obtain ⟨joined, colonless⟩ := splitReference?_eq_some_iff.mp parted
  obtain ⟨zoneInked, nameInked⟩ := sidesInked zone name joined colonless
  have bothLeft : ¬(trim zone = [] ∨ trim name = []) := by
    rw [trim_eq_nil_iff, trim_eq_nil_iff, zoneInked, nameInked]
    simp
  have isParted : ofReference reference =
      ⟨String.ofList (trim zone), String.ofList (trim name)⟩ := by
    unfold ofReference
    rw [parted]
    exact if_neg bothLeft
  rw [isParted, key, normalize_trim, normalize_trim]

/-! ## Respellings -/

/-- The character is no colon, and nothing of its lower case is in a key. -/
def IsMute (character : Char) : Prop :=
  character ≠ ':' ∧ ∀ lowered ∈ lowercase [character], isKeyChar lowered = false

instance (character : Char) : Decidable (IsMute character) :=
  decidable_of_iff
    (character ≠ ':' ∧ (lowercase [character]).any isKeyChar = false)
    (by simp [IsMute])

/-- The texts are the same but for the case of Latin letters and for mute characters, of which
either of them may have more. -/
inductive Respelled : (text other : List Char) → Prop where
  | nil : Respelled [] []
  | letter {character second : Char} {text other : List Char}
      (sameLetter : character.toLower = second.toLower)
      (later : Respelled text other) :
      Respelled (character :: text) (second :: other)
  | left {character : Char} {text other : List Char}
      (mute : IsMute character)
      (later : Respelled text other) :
      Respelled (character :: text) other
  | right {character : Char} {text other : List Char}
      (mute : IsMute character)
      (later : Respelled text other) :
      Respelled text (character :: other)

theorem keyChars_of_mute
    {character : Char}
    (mute : IsMute character) :
    keyChars character = [] := by
  have added : (lowercase [character]).filter isKeyChar = [character].flatMap keyChars :=
    filter_lowercaseAfter false [character]
  rw [List.flatMap_singleton] at added
  rw [← added, List.filter_eq_nil_iff]
  intro lowered member isKey
  rw [mute.2 lowered member] at isKey
  cases isKey

theorem toLower_eq_colon_iff {character : Char} : character.toLower = ':' ↔ character = ':' := by
  by_cases isCapital : 0x41 ≤ character.toNat ∧ character.toNat ≤ 0x5A
  · have lowered := toNat_toLower isCapital.1 isCapital.2
    constructor
    · intro isColon
      rw [isColon] at lowered
      exact absurd lowered (by simp; omega)
    · rintro rfl
      exact absurd isCapital (by decide)
  · rw [toLower_of_not_capital (by omega)]

namespace Respelled

variable {text other : List Char}

theorem flatMap_keyChars (respelled : Respelled text other) :
    text.flatMap keyChars = other.flatMap keyChars := by
  induction respelled with
  | nil => rfl
  | letter sameLetter _ inductionHypothesis =>
      rw [List.flatMap_cons, List.flatMap_cons, inductionHypothesis, ← keyChars_toLower,
        sameLetter, keyChars_toLower]
  | left mute _ inductionHypothesis =>
      rw [List.flatMap_cons, keyChars_of_mute mute, inductionHypothesis, List.nil_append]
  | right mute _ inductionHypothesis =>
      rw [List.flatMap_cons, keyChars_of_mute mute, inductionHypothesis, List.nil_append]

/-- Neither text has a colon, or their sides at the first one are respellings. -/
theorem split (respelled : Respelled text other) :
    Option.Rel (fun sides others => Respelled sides.1 others.1 ∧ Respelled sides.2 others.2)
      (splitReference? text) (splitReference? other) := by
  induction respelled with
  | nil => exact .none
  | @letter character second text other sameLetter later inductionHypothesis =>
      by_cases isColon : character = ':'
      · have isOther : second = ':' :=
          toLower_eq_colon_iff.mp (sameLetter ▸ toLower_eq_colon_iff.mpr isColon)
        subst isColon isOther
        exact .some ⟨.nil, later⟩
      · have notOther : second ≠ ':' := fun isOther =>
          isColon (toLower_eq_colon_iff.mp (sameLetter ▸ toLower_eq_colon_iff.mpr isOther))
        simp only [splitReference?, if_neg isColon, if_neg notOther]
        generalize splitReference? text = sides, splitReference? other = others
          at inductionHypothesis ⊢
        cases inductionHypothesis with
        | none => exact .none
        | some sides => exact .some ⟨.letter sameLetter sides.1, sides.2⟩
  | @left character text other mute later inductionHypothesis =>
      simp only [splitReference?, if_neg mute.1]
      generalize splitReference? text = sides, splitReference? other = others
        at inductionHypothesis ⊢
      cases inductionHypothesis with
      | none => exact .none
      | some sides => exact .some ⟨.left mute sides.1, sides.2⟩
  | @right character text other mute later inductionHypothesis =>
      simp only [splitReference?, if_neg mute.1]
      generalize splitReference? text = sides, splitReference? other = others
        at inductionHypothesis ⊢
      cases inductionHypothesis with
      | none => exact .none
      | some sides => exact .some ⟨.right mute sides.1, sides.2⟩

end Respelled

theorem key_respelled
    {reference other : String}
    (respelled : Respelled reference.toList other.toList)
    (sidesInked : SidesInked reference)
    (otherInked : SidesInked other) :
    (ofReference reference).key = (ofReference other).key := by
  have same {text second : List Char} (respelled : Respelled text second) :
      normalize (String.ofList text) = normalize (String.ofList second) := by
    rw [normalize_eq_iff, String.toList_ofList, String.toList_ofList]
    exact respelled.flatMap_keyChars
  have split := respelled.split
  generalize parted : splitReference? reference.toList = sides,
    otherParted : splitReference? other.toList = others at split
  cases split with
  | none =>
      rw [key_ofReference_of_colonless parted, key_ofReference_of_colonless otherParted,
        normalize_eq_iff.mpr respelled.flatMap_keyChars]
  | some sides =>
      rw [key_ofReference_of_sides sidesInked parted,
        key_ofReference_of_sides otherInked otherParted, same sides.1, same sides.2]

/-- A key tells the normal forms of zone and name. Normal forms are put together from those of the
parts of a text, are normal themselves and do not depend on case, and so a reference keeps its key
under every respelling that leaves something on each side of its colon. -/
theorem key_identifies :
    (∀ component other : Component,
      component.key = other.key ↔
        normalize component.zone = normalize other.zone ∧
          normalize component.name = normalize other.name) ∧
      (∀ front back, normalize (front ++ back) = normalize front ++ normalize back) ∧
      (∀ text, normalize (normalize text) = normalize text) ∧
      (∀ text other : String, text.toLower = other.toLower → normalize text = normalize other) ∧
      ∀ reference other : String,
        Respelled reference.toList other.toList → SidesInked reference → SidesInked other →
          (ofReference reference).key = (ofReference other).key := by
  refine ⟨fun _ _ => key_eq_iff, normalize_append, ?_, ?_, fun _ _ => key_respelled⟩
  · intro text
    exact (isNormal_normalize text).normalize_eq
  · intro text other sameLetters
    rw [← normalize_toLower text, ← normalize_toLower other, sameLetters]

/-- Case, a dash, a blank and a sigma, which is small at the end of a word, do not change the key
of a store. -/
theorem storeReference_identified :
    Respelled "Db:S3".toList "d-B: s\u03A33".toList ∧ SidesInked "Db:S3" ∧
      SidesInked "d-B: s\u03A33" ∧ "Db:S3".toLower = "dB:s3".toLower ∧
      normalize "Db:S3" = normalize "dB:s3" ∧
      (ofReference "Db:S3").key = (ofReference "d-B: s\u03A33").key ∧
      (ofReference "Db:S3").key = "db-s3" := by
  have spelled : "Db:S3".toList = ['D', 'b', ':', 'S', '3'] := by
    decide
  have otherSpelled : "d-B: s\u03A33".toList =
      ['d', '-', 'B', ':', ' ', 's', '\u03A3', '3'] := by
    decide
  have respelled : Respelled ['D', 'b', ':', 'S', '3']
      ['d', '-', 'B', ':', ' ', 's', '\u03A3', '3'] :=
    .letter (by decide) <| .right (by decide +kernel) <| .letter (by decide) <|
      .letter rfl <| .right (by decide +kernel) <| .letter (by decide) <|
      .right (by decide +kernel) <| .letter rfl .nil
  rw [← spelled, ← otherSpelled] at respelled
  have sidesInked : SidesInked "Db:S3" := by
    decide +kernel
  have otherInked : SidesInked "d-B: s\u03A33" := by
    decide +kernel
  have sameLetters : "Db:S3".toLower = "dB:s3".toLower := by
    rw [← String.toList_inj, toList_toLower, toList_toLower]
    decide
  obtain ⟨_, _, _, ofCase, ofRespelling⟩ := key_identifies
  exact ⟨respelled, sidesInked, otherInked, sameLetters, ofCase _ _ sameLetters,
    ofRespelling _ _ respelled sidesInked otherInked, by decide +kernel⟩

end Component

end ThreatModel
