import Mathlib.Data.List.Forall2
import ThreatModel.Proofs.Entry.Grammar

/-!
Contract: the kinds of lines, and which recognizer reads which.

Owns:
- the kind of an entry, and the kinds in the order of their recognizers;
- that all fits of a line are of one kind;
- that no line is read by two recognizers, so that their order does not matter.

Does not own: how the lines of one kind are read.
-/

namespace ThreatModel.Entry

open ThreatModel.Text

/-- Both directions of a flow are of one kind. -/
inductive Kind where
  | declaration
  | item (kind : ItemKind)
  | signature
deriving DecidableEq, Repr

def kind : Entry → Kind
  | .declaration _ _ => .declaration
  | .item stated => .item stated.kind
  | .signature _ _ => .signature

/-- The kinds in the order of their recognizers. -/
def kinds : List Kind :=
  [.declaration, .item .mitigation, .item .exposure, .item .activity, .item .flow, .item .test,
    .signature]

/-! ## One kind of fits -/

section Fits

variable {line : List Char} {entry other : Entry}

theorem fits_of_layout?
    {layout : Layout}
    (laidOut : entry.layout? = some layout) :
    Fits line entry ↔ layout.Fits line := by
  cases entry with
  | declaration model function =>
      obtain rfl := Option.some.inj laidOut
      exact Iff.rfl
  | item stated =>
      obtain rfl := Option.some.inj laidOut
      exact Iff.rfl
  | signature code name => cases laidOut

/-- The shape of an annotation tells its kind. -/
theorem kind_eq_of_shape_eq
    {layout otherLayout : Layout}
    (laidOut : entry.layout? = some layout)
    (otherLaidOut : other.layout? = some otherLayout)
    (same : layout.shape = otherLayout.shape) :
    entry.kind = other.kind := by
  have itemKind {stated known : Item} (sameShape : stated.layout.shape = known.layout.shape) :
      stated.kind = known.kind := by
    cases stated <;> cases known <;>
      simp_all [Item.layout, Item.kind, mitigationShape, exposureShape, activityShape, flowShape,
        testShape]
  have apart (stated : Item) : stated.layout.shape ≠ declarationShape := by
    cases stated <;>
      simp [Item.layout, declarationShape, mitigationShape, exposureShape, activityShape,
        flowShape, testShape]
  cases entry with
  | declaration model function =>
      obtain rfl := Option.some.inj laidOut
      cases other with
      | declaration => rfl
      | item known =>
          obtain rfl := Option.some.inj otherLaidOut
          exact absurd same.symm (apart known)
      | signature => cases otherLaidOut
  | item stated =>
      obtain rfl := Option.some.inj laidOut
      cases other with
      | declaration =>
          obtain rfl := Option.some.inj otherLaidOut
          exact absurd same (apart stated)
      | item known =>
          obtain rfl := Option.some.inj otherLaidOut
          exact congrArg Kind.item (itemKind same)
      | signature => cases otherLaidOut
  | signature => cases laidOut

/-- A comment of some shape is no signature. -/
theorem not_fits_signature
    {layout : Layout}
    (laidOut : entry.layout? = some layout)
    (fits : Fits line entry)
    (code name : String) :
    ¬Fits line (.signature code name) := by
  rintro ⟨gap, parameters, signs, _⟩
  obtain ⟨text, comment, _⟩ := (fits_of_layout? laidOut).mp fits
  exact not_signatureFits comment signs

/-- Whatever the words in its fields are, a line fits as one kind at most. -/
theorem kind_unique
    (fits : Fits line entry)
    (otherFits : Fits line other) :
    entry.kind = other.kind := by
  cases laidOut : entry.layout? with
  | some layout =>
      cases otherLaidOut : other.layout? with
      | some otherLayout =>
          refine kind_eq_of_shape_eq laidOut otherLaidOut ?_
          exact shape_unique (shape_mem_shapes laidOut) (shape_mem_shapes otherLaidOut)
            ((fits_of_layout? laidOut).mp fits) ((fits_of_layout? otherLaidOut).mp otherFits)
      | none =>
          obtain ⟨code, name, rfl⟩ := eq_signature_of_layout?_eq_none otherLaidOut
          exact absurd otherFits (not_fits_signature laidOut fits code name)
  | none =>
      obtain ⟨code, name, rfl⟩ := eq_signature_of_layout?_eq_none laidOut
      cases otherLaidOut : other.layout? with
      | some otherLayout =>
          exact absurd fits (not_fits_signature otherLaidOut otherFits code name)
      | none =>
          obtain ⟨otherCode, otherName, rfl⟩ := eq_signature_of_layout?_eq_none otherLaidOut
          rfl

end Fits

/-! ## One kind for each recognizer -/

/-- All answers of the recognizer are of the kind. -/
def Recognizer.Answers
    (recognizer : Recognizer)
    (kind : Kind) :
    Prop :=
  ∀ line entry, recognizer line = some entry → entry.kind = kind

theorem recognizers_answer_kinds :
    List.Forall₂ Recognizer.Answers recognizers kinds := by
  refine .cons ?_ (.cons ?_ (.cons ?_ (.cons ?_ (.cons ?_ (.cons ?_ (.cons ?_ .nil))))))
  · intro line entry answers
    obtain ⟨_, _, _, rfl, _⟩ := declaration?_eq_some_iff.mp answers
    rfl
  · intro line entry answers
    obtain ⟨_, _, _, _, rfl, _⟩ := mitigation?_eq_some_iff.mp answers
    rfl
  · intro line entry answers
    obtain ⟨_, _, _, _, rfl, _⟩ := exposure?_eq_some_iff.mp answers
    rfl
  · intro line entry answers
    obtain ⟨_, _, _, rfl, _⟩ := activity?_eq_some_iff.mp answers
    rfl
  · intro line entry answers
    obtain ⟨direction, reads⟩ := exists_direction answers
    obtain ⟨_, _, _, _, rfl, _⟩ := flow?_eq_some_iff.mp reads
    rfl
  · intro line entry answers
    obtain ⟨_, _, _, rfl, _⟩ := test?_eq_some_iff.mp answers
    rfl
  · intro line entry answers
    obtain ⟨_, _, rfl, _⟩ := signatureLine?_eq_some_iff.mp answers
    rfl

/-- Recognizers in different places have different kinds of answers. -/
theorem recognizers_pairwise (line : List Char) :
    recognizers.Pairwise fun earlier later => earlier line = none ∨ later line = none := by
  have distinct : kinds.Nodup := by decide
  obtain ⟨sameLength, answerKinds⟩ := List.forall₂_iff_get.mp recognizers_answer_kinds
  refine List.pairwise_iff_getElem.mpr fun first second isFirst isSecond before => ?_
  cases earlier : recognizers[first] line with
  | none => exact .inl rfl
  | some entry =>
      cases later : recognizers[second] line with
      | none => exact .inr rfl
      | some other =>
          have least := fitsLeast_of_recognizer (List.getElem_mem isFirst) earlier
          have otherLeast := fitsLeast_of_recognizer (List.getElem_mem isSecond) later
          obtain rfl := least.unique otherLeast
          have firstKind := answerKinds first isFirst (sameLength ▸ isFirst) line entry earlier
          have secondKind := answerKinds second isSecond (sameLength ▸ isSecond) line entry later
          exact absurd (firstKind.symm.trans secondKind)
            (List.pairwise_iff_getElem.mp distinct first second _ _ before)

/-- Any order of the recognizers reads what the order of `recognizers` does. -/
theorem findSome?_eq_ofLine?
    {order : List Recognizer}
    (reordered : order.Perm recognizers)
    (line : String) :
    order.findSome? (· (dropLineEnd line.toList)) = ofLine? line := by
  cases reads : ofLine? line with
  | none =>
      have silent := List.findSome?_eq_none_iff.mp reads
      exact List.findSome?_eq_none_iff.mpr fun recognizer member =>
        silent recognizer (reordered.mem_iff.mp member)
  | some entry =>
      obtain ⟨recognizer, known, answers⟩ := List.exists_of_findSome?_eq_some reads
      have isRead : (order.findSome? (· (dropLineEnd line.toList))).isSome := by
        rw [List.findSome?_isSome_iff]
        exact ⟨recognizer, reordered.mem_iff.mpr known, Option.isSome_of_eq_some answers⟩
      obtain ⟨found, isFound⟩ := Option.isSome_iff_exists.mp isRead
      obtain ⟨other, member, otherAnswers⟩ := List.exists_of_findSome?_eq_some isFound
      have least := fitsLeast_of_recognizer (reordered.mem_iff.mp member) otherAnswers
      rw [isFound, least.unique (ofLine?_eq_some_iff.mp reads)]

/-- No line is read by two recognizers. So the recognizers read the same in any order, and a line
that fits as an entry of some kind, whatever its words are, is read as an entry of that kind. -/
theorem recognizers_disjoint (line : String) :
    (recognizers.Pairwise fun earlier later =>
      earlier (dropLineEnd line.toList) = none ∨ later (dropLineEnd line.toList) = none) ∧
      (∀ order : List Recognizer, order.Perm recognizers →
        order.findSome? (· (dropLineEnd line.toList)) = ofLine? line) ∧
      ∀ entry, Fits (dropLineEnd line.toList) entry →
        ∃ chosen, ofLine? line = some chosen ∧ chosen.kind = entry.kind := by
  refine ⟨recognizers_pairwise _, fun _ reordered => findSome?_eq_ofLine? reordered line, ?_⟩
  intro entry fits
  obtain ⟨chosen, least⟩ := exists_fitsLeast fits
  exact ⟨chosen, ofLine?_eq_some_iff.mpr least, kind_unique least.fits fits⟩

/-- An activity with the words of a test and of a signature in its fields. -/
def crowdedLine : String :=
  "// Does // Tests f for x for func f() \x7b\r\n"

theorem crowdedLine_read_as_activity :
    recognizers.reverse.Perm recognizers ∧
      recognizers.reverse.findSome? (· (dropLineEnd crowdedLine.toList)) = ofLine? crowdedLine ∧
      Fits (dropLineEnd crowdedLine.toList)
        (.item (.activity "// Tests f" "x for func f() \x7b" none)) ∧
      ∃ chosen, ofLine? crowdedLine = some chosen ∧ chosen.kind = .item .activity := by
  have reads : ofLine? crowdedLine =
      some (.item (.activity "// Tests f" "x for func f() \x7b" none)) := by
    decide +kernel
  have fits := (ofLine?_eq_some_iff.mp reads).fits
  have reordered := List.reverse_perm recognizers
  obtain ⟨_, sameInAnyOrder, sameKind⟩ := recognizers_disjoint crowdedLine
  exact ⟨reordered, sameInAnyOrder _ reordered, fits, sameKind _ fits⟩

end ThreatModel.Entry
