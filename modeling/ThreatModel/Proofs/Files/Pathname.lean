import Mathlib.Data.List.TakeWhile
import ThreatModel.Files.Pathname
import ThreatModel.Proofs.Text.Pieces

/-!
Contract: the parts of path names.

Owns:
- names in normal form, which are read back from their text;
- that the parts of a text before a slash are the first parts of the whole text;
- the starts of a text at which folders are made.

Does not own: what exists under a path.
-/

namespace ThreatModel

open ThreatModel.Text

namespace Pathname

/-! ## Parts -/

theorem partsOf_append_slash (front back : List Char) :
    partsOf (front ++ '/' :: back) = partsOf front ++ partsOf back := by
  simp only [partsOf, splitWhere_append_cons (show isSlash '/' = true from rfl), List.map_append,
    List.filter_append]

/-- A part is neither empty nor a single dot, and has no slash in it. -/
structure IsPart (part : String) : Prop where
  inhabited : part ≠ ""
  notDot : part ≠ "."
  unparted : ∀ character ∈ part.toList, isSlash character = false

theorem IsPart.partsOf_toList
    {part : String}
    (isPart : IsPart part) :
    partsOf part.toList = [part] := by
  rw [partsOf, splitWhere_of_clear isPart.unparted, List.map_singleton, String.ofList_toList]
  simp [isPart.inhabited, isPart.notDot]

theorem isPart_of_mem_partsOf
    {text : List Char}
    {part : String}
    (member : part ∈ partsOf text) :
    IsPart part := by
  rw [partsOf, List.mem_filter, List.mem_map] at member
  obtain ⟨⟨piece, isPiece, rfl⟩, isKept⟩ := member
  rw [Bool.and_eq_true, decide_eq_true_iff, decide_eq_true_iff] at isKept
  refine ⟨isKept.1, isKept.2, ?_⟩
  rw [String.toList_ofList]
  exact clear_of_mem_splitWhere isPiece

theorem partsOf_intercalate
    {parts : List String}
    (areParts : ∀ part ∈ parts, IsPart part) :
    partsOf ("/".intercalate parts).toList = parts := by
  rw [String.toList_intercalate, show "/".toList = ['/'] from rfl]
  induction parts with
  | nil => rfl
  | cons head tail inductionHypothesis =>
      rw [List.forall_mem_cons] at areParts
      have later := inductionHypothesis areParts.2
      cases tail with
      | nil =>
          have single : ['/'].intercalate ([head].map String.toList) = head.toList := by
            simp [List.intercalate]
          rw [single, areParts.1.partsOf_toList]
      | cons next rest =>
          have parted : ['/'].intercalate ((head :: next :: rest).map String.toList) =
              head.toList ++ '/' :: ['/'].intercalate ((next :: rest).map String.toList) := by
            simp [List.intercalate]
          rw [parted, partsOf_append_slash, areParts.1.partsOf_toList, later]
          rfl

/-! ## Normal form -/

/-- The name has one of the three roots, and parts that are parts. -/
structure IsNormal (name : Pathname) : Prop where
  rooted : name.root = "" ∨ name.root = "/" ∨ name.root = "//"
  areParts : ∀ part ∈ name.parts, IsPart part

theorem isNormal_ofText (text : String) : (ofText text).IsNormal where
  rooted := by
    rw [ofText, rootOf]
    split
    · exact .inl rfl
    · exact .inr (.inr rfl)
    · exact .inr (.inl rfl)
  areParts _ member := isPart_of_mem_partsOf member

theorem IsNormal.of_append
    {root : String}
    {front back : List String}
    (isNormal : IsNormal ⟨root, front ++ back⟩) :
    IsNormal ⟨root, front⟩ where
  rooted := isNormal.rooted
  areParts _ member := isNormal.areParts _ (List.mem_append_left back member)

theorem IsNormal.parent
    {name : Pathname}
    (isNormal : name.IsNormal) :
    name.parent.IsNormal where
  rooted := isNormal.rooted
  areParts _ member := isNormal.areParts _ (List.dropLast_subset _ member)

theorem rootOf_append
    (root rest : List Char)
    (isRoot : ∀ character ∈ root, isSlash character = true)
    (ended : rest.takeWhile isSlash = []) :
    rootOf (root ++ rest) = rootOf root := by
  have slashes : (root ++ rest).takeWhile isSlash = root.takeWhile isSlash := by
    rw [List.takeWhile_append_of_pos isRoot, ended, List.append_nil,
      List.takeWhile_eq_self_iff.mpr isRoot]
  rw [rootOf, rootOf, slashes]

theorem takeWhile_intercalate
    {parts : List String}
    (areParts : ∀ part ∈ parts, IsPart part) :
    ("/".intercalate parts).toList.takeWhile isSlash = [] := by
  rw [String.toList_intercalate]
  cases parts with
  | nil => rfl
  | cons head tail =>
      obtain ⟨inhabited, -, unparted⟩ := areParts head List.mem_cons_self
      cases letters : head.toList with
      | nil => exact absurd (String.toList_eq_nil_iff.mp letters) inhabited
      | cons first rest =>
          rw [letters, List.forall_mem_cons] at unparted
          have starts : ∃ more, "/".toList.intercalate ((head :: tail).map String.toList) =
              first :: more := by
            cases tail <;> simp [List.intercalate, letters]
          obtain ⟨more, starts⟩ := starts
          rw [starts, List.takeWhile_cons_of_neg (by simp [unparted.1])]

/-- A name in normal form is read back from its text. -/
theorem IsNormal.ofText_text
    {name : Pathname}
    (isNormal : name.IsNormal) :
    ofText name.text = name := by
  obtain ⟨root, parts⟩ := name
  obtain ⟨rooted, areParts⟩ := isNormal
  rw [text]
  split
  · next isEmpty =>
      obtain ⟨rfl, rfl⟩ := isEmpty
      decide
  · have sameRoot : rootOf (root.toList ++ ("/".intercalate parts).toList) = rootOf root.toList := by
      apply rootOf_append _ _ _ (takeWhile_intercalate areParts)
      rcases rooted with rfl | rfl | rfl <;> simp [isSlash]
    have sameParts : partsOf (root.toList ++ ("/".intercalate parts).toList) = parts := by
      rcases rooted with rfl | rfl | rfl
      · exact partsOf_intercalate areParts
      · exact (partsOf_append_slash [] _).trans (partsOf_intercalate areParts)
      · exact (partsOf_append_slash ['/'] _).trans (partsOf_intercalate areParts)
    rw [ofText, String.toList_append, sameRoot, sameParts]
    rcases rooted with rfl | rfl | rfl <;> rfl

/-- The normal form names what the path does. -/
theorem ofText_normalPath (path : String) : ofText (normalPath path) = ofText path :=
  (isNormal_ofText path).ofText_text

/-! ## Starts -/

/-- A start of a text that ends where one of its parts does. -/
structure StartsPath (front path : List Char) : Prop where
  cut : ∃ back, path = front ++ back ∧ (back = [] ∨ ∃ rest, back = '/' :: rest)
  inked : ∃ character ∈ front, isSlash character = false

theorem StartsPath.append
    {front path : List Char}
    (starts : StartsPath front path)
    (rest : List Char) :
    StartsPath front (path ++ '/' :: rest) where
  inked := starts.inked
  cut := by
    obtain ⟨back, rfl, rfl | ⟨others, rfl⟩⟩ := starts.cut
    · exact ⟨'/' :: rest, by rw [List.append_nil], .inr ⟨rest, rfl⟩⟩
    · exact ⟨'/' :: (others ++ '/' :: rest), by simp, .inr ⟨_, rfl⟩⟩

/-- The start has the root of the path, and the first of its parts. -/
theorem StartsPath.exists_parts
    {front path : List Char}
    (starts : StartsPath front path) :
    rootOf front = rootOf path ∧ ∃ later, partsOf path = partsOf front ++ later := by
  obtain ⟨⟨back, rfl, isCut⟩, character, member, noSlash⟩ := starts
  have sameSlashes : (front ++ back).takeWhile isSlash = front.takeWhile isSlash := by
    rw [List.takeWhile_append, if_neg]
    intro whole
    have isWhole : front.takeWhile isSlash = front :=
      (List.takeWhile_prefix isSlash).eq_of_length whole
    have isSlash := List.takeWhile_eq_self_iff.mp isWhole character member
    rw [noSlash] at isSlash
    cases isSlash
  refine ⟨by rw [rootOf, rootOf, sameSlashes], ?_⟩
  rcases isCut with rfl | ⟨rest, rfl⟩
  · exact ⟨[], by rw [List.append_nil, List.append_nil]⟩
  · exact ⟨partsOf rest, partsOf_append_slash front rest⟩

theorem startsPath_of_mem_writtenStarts
    {text : List Char}
    {start : String}
    (member : start ∈ writtenStarts text) :
    StartsPath start.toList text := by
  rw [writtenStarts, List.mem_map] at member
  obtain ⟨index, isEnd, rfl⟩ := member
  rw [List.mem_filter, List.mem_range, Bool.and_eq_true] at isEnd
  obtain ⟨inside, endsPart, cut⟩ := isEnd
  rw [List.getElem?_eq_getElem inside, Option.any_some, Bool.not_eq_true'] at endsPart
  rw [String.toList_ofList]
  constructor
  · refine ⟨text.drop (index + 1), (List.take_append_drop _ _).symm, ?_⟩
    cases rest : text.drop (index + 1) with
    | nil => exact .inl rfl
    | cons next others =>
        have isNext : text[index + 1]? = some next := by
          rw [← Nat.add_zero (index + 1), ← List.getElem?_drop, rest]
          rfl
        rw [isNext, Option.all_some, isSlash, decide_eq_true_iff] at cut
        exact .inr ⟨others, by rw [cut]⟩
  · refine ⟨text[index], ?_, endsPart⟩
    rw [List.mem_take_iff_getElem]
    exact ⟨index, by omega, rfl⟩

end Pathname

end ThreatModel
