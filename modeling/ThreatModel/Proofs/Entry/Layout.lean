import ThreatModel.Entry.Line
import ThreatModel.Proofs.Entry.Signature

/-!
Contract: how each kind of entry is laid out on a line.

Owns:
- the shape, the fields and the reference of every annotation;
- the fits of a line as an entry, and the least one;
- that a line fits one shape at most, and has one least fit at most.

Does not own: the recognizers of lines.
-/

namespace ThreatModel.Entry

open ThreatModel.Text

/-! ## Layouts -/

/-- An annotation by its shape, with the texts that fill it. -/
structure Layout where
  shape : Shape
  fields : List String
  ref : Option String
deriving DecidableEq, Repr

def Item.layout : Item → Layout
  | .mitigation component threat text ref => ⟨mitigationShape, [component, threat, text], ref⟩
  | .exposure component threat text ref => ⟨exposureShape, [component, threat, text], ref⟩
  | .activity action component ref => ⟨activityShape, [action, component], ref⟩
  | .flow direction subject source dest => ⟨flowShape direction, [subject, source, dest], none⟩
  | .test function threat ref => ⟨testShape, [function, threat], ref⟩

namespace Layout

def Fits (line : List Char) (layout : Layout) : Prop :=
  layout.shape.Fits line (layout.fields.map String.toList) (layout.ref.map String.toList)

def FitsLeast (line : List Char) (layout : Layout) : Prop :=
  layout.shape.FitsLeast line (layout.fields.map String.toList) (layout.ref.map String.toList)

end Layout

/-- The shapes of all annotations. -/
def shapes : List Shape :=
  [declarationShape, mitigationShape, exposureShape, activityShape, flowShape .sends,
    flowShape .receives, testShape]

/-- A signature has no layout. -/
def layout? : Entry → Option Layout
  | .declaration model function => some ⟨declarationShape, [model, function], none⟩
  | .item stated => some stated.layout
  | .signature _ _ => none

/-- The line can be cut into the parts of the entry. -/
def Fits (line : List Char) : Entry → Prop
  | .declaration model function => Layout.Fits line ⟨declarationShape, [model, function], none⟩
  | .item stated => stated.layout.Fits line
  | .signature code name =>
      ∃ gap parameters,
        SignatureFits line gap name.toList parameters ∧
          code.toList = name.toList ++ '(' :: parameters

/-- The entry has the parts of the cut that comes first among those of its kind. -/
def FitsLeast (line : List Char) : Entry → Prop
  | .declaration model function => Layout.FitsLeast line ⟨declarationShape, [model, function], none⟩
  | .item stated => stated.layout.FitsLeast line
  | .signature code name =>
      ∃ gap parameters,
        SignatureFitsLeast line gap name.toList parameters ∧
          code.toList = name.toList ++ '(' :: parameters

/-! ## One shape at most -/

theorem isKeyed_of_mem_shapes :
    ∀ shape ∈ shapes, shape.IsKeyed := by
  intro shape member
  simp only [shapes, List.mem_cons, List.not_mem_nil, or_false] at member
  rcases member with rfl | rfl | rfl | rfl | rfl | rfl | rfl
  · exact ⟨'T', "hreatSpec".toList, by decide, by decide⟩
  · exact ⟨'M', "itigates".toList, by decide, by decide⟩
  · exact ⟨'E', "xposes".toList, by decide, by decide⟩
  · exact ⟨'D', "oes".toList, by decide, by decide⟩
  · exact ⟨'S', "ends".toList, by decide, by decide⟩
  · exact ⟨'R', "eceives".toList, by decide, by decide⟩
  · exact ⟨'T', "ests".toList, by decide, by decide⟩

theorem shape_mem_shapes {entry : Entry} {layout : Layout} (laidOut : entry.layout? = some layout) :
    layout.shape ∈ shapes := by
  cases entry with
  | declaration model function =>
      obtain rfl := Option.some.inj laidOut
      simp [shapes]
  | item stated =>
      obtain rfl := Option.some.inj laidOut
      cases stated with
      | flow direction subject source dest =>
          cases direction <;> simp [Item.layout, shapes]
      | _ => simp [Item.layout, shapes]
  | signature code name => cases laidOut

/-- The keyword is what stands before the first space of a body. -/
theorem keyword_unique
    {keyword other text otherText : List Char}
    (spaceless : ' ' ∉ keyword)
    (otherSpaceless : ' ' ∉ other)
    (same : keyword ++ [' '] ++ text = other ++ [' '] ++ otherText) :
    keyword = other := by
  have front {word : List Char} (rest : List Char) (noSpace : ' ' ∉ word) :
      (word ++ [' '] ++ rest).takeWhile (· ≠ ' ') = word := by
    have kept : ∀ character ∈ word, decide (character ≠ ' ') = true := by
      intro character member
      exact decide_eq_true fun isSpace => noSpace (isSpace ▸ member)
    rw [List.append_assoc, List.takeWhile_append_of_pos kept]
    simp
  rw [← front text spaceless, same, front otherText otherSpaceless]

theorem shape_unique
    {line : List Char}
    {shape other : Shape}
    (member : shape ∈ shapes)
    (otherMember : other ∈ shapes)
    {fields otherFields : List (List Char)}
    {ref otherRef : Option (List Char)}
    (fits : shape.Fits line fields ref)
    (otherFits : other.Fits line otherFields otherRef) :
    shape = other := by
  have spaceless : ∀ shape ∈ shapes, ' ' ∉ shape.keyword.toList := by decide
  have keyedApart : ∀ shape ∈ shapes, ∀ other ∈ shapes,
      shape.keyword.toList = other.keyword.toList → shape = other := by decide
  obtain ⟨text, comment, _⟩ := fits
  obtain ⟨otherText, otherComment, _⟩ := otherFits
  have isBody :=
    (Shape.commentBody?_eq_some_keyword_iff (isKeyed_of_mem_shapes shape member) text).mpr comment
  rw [(Shape.commentBody?_eq_some_keyword_iff (isKeyed_of_mem_shapes other otherMember)
    otherText).mpr otherComment] at isBody
  exact keyedApart shape member other otherMember
    (keyword_unique (spaceless shape member) (spaceless other otherMember)
      (Option.some.inj isBody).symm)

/-- A comment is no signature. -/
theorem not_signatureFits
    {line body gap name parameters : List Char}
    (comment : CommentOf line body) :
    ¬SignatureFits line gap name parameters := by
  rintro ⟨_, _, before, text, blankBefore, _, parted⟩
  have signs : trimStart line = 'f' :: (['u', 'n', 'c'] ++ (gap ++ text)) :=
    (trimStart_eq_cons_iff (by decide)).mpr ⟨before, blankBefore, parted⟩
  obtain ⟨front, marker, after, blankFront, isMarker, _, rfl⟩ := comment
  rw [trimStart_append blankFront] at signs
  rcases isMarker with rfl | rfl
  · rw [List.cons_append, trimStart_cons_of_not_blank _ (by decide)] at signs
    cases signs
  · rw [List.cons_append, trimStart_cons_of_not_blank _ (by decide)] at signs
    cases signs

/-! ## One least fit at most -/

theorem Shape.FitsLeast.unique
    {shape : Shape}
    {line : List Char}
    (keyed : shape.IsKeyed)
    {fields others : List (List Char)}
    {ref otherRef : Option (List Char)}
    (least : shape.FitsLeast line fields ref)
    (otherLeast : shape.FitsLeast line others otherRef) :
    fields = others ∧ ref = otherRef := by
  have reads := (Shape.readLine?_eq_some_iff_fitsLeast keyed).mpr least
  rw [(Shape.readLine?_eq_some_iff_fitsLeast keyed).mpr otherLeast] at reads
  cases reads
  exact ⟨rfl, rfl⟩

theorem SignatureFitsLeast.unique
    {line gap otherGap name other parameters otherParameters : List Char}
    (least : SignatureFitsLeast line gap name parameters)
    (otherLeast : SignatureFitsLeast line otherGap other otherParameters) :
    name = other ∧ parameters = otherParameters := by
  have reads := signature?_eq_some_iff.mpr ⟨gap, least⟩
  rw [signature?_eq_some_iff.mpr ⟨otherGap, otherLeast⟩] at reads
  cases reads
  exact ⟨rfl, rfl⟩

theorem Layout.FitsLeast.unique
    {line : List Char}
    {layout other : Layout}
    (member : layout.shape ∈ shapes)
    (otherMember : other.shape ∈ shapes)
    (least : layout.FitsLeast line)
    (otherLeast : other.FitsLeast line) :
    layout = other := by
  obtain ⟨shape, fields, ref⟩ := layout
  obtain ⟨otherShape, otherFields, otherRef⟩ := other
  obtain rfl : shape = otherShape :=
    shape_unique member otherMember least.fits otherLeast.fits
  obtain ⟨sameFields, sameRef⟩ :=
    Shape.FitsLeast.unique (isKeyed_of_mem_shapes shape member) least otherLeast
  have toListInjective (left right : String) : left.toList = right.toList → left = right :=
    String.toList_inj.mp
  obtain rfl := (List.map_inj_right toListInjective).mp sameFields
  obtain rfl := (Option.map_inj_right toListInjective).mp sameRef
  rfl

theorem flowShape_injective
    {direction other : Direction}
    (same : flowShape direction = flowShape other) :
    direction = other := by
  cases direction <;> cases other <;> simp_all [flowShape, Direction.keyword]

/-- Kinds differ by their shapes, and items of one kind by what fills the shape. -/
theorem Item.layout_injective
    {item other : Item}
    (same : item.layout = other.layout) :
    item = other := by
  cases item with
  | flow direction subject source dest =>
      cases other with
      | flow otherDirection otherSubject otherSource otherDest =>
          rw [layout, layout, Layout.mk.injEq] at same
          obtain ⟨sameShape, sameFields, _⟩ := same
          obtain rfl := flowShape_injective sameShape
          simpa using sameFields
      | _ => simp [layout, flowShape, mitigationShape, exposureShape, activityShape, testShape] at same
  | _ =>
      cases other <;>
        simp_all [layout, mitigationShape, exposureShape, activityShape, flowShape, testShape]

/-- The layout of an entry tells the entry. -/
theorem layout?_injective
    {entry other : Entry}
    {layout : Layout}
    (laidOut : entry.layout? = some layout)
    (otherLaidOut : other.layout? = some layout) :
    entry = other := by
  have apart (model function : String) (stated : Item) :
      stated.layout ≠ ⟨declarationShape, [model, function], none⟩ := by
    intro same
    cases stated <;>
      simp [Item.layout, declarationShape, mitigationShape, exposureShape, activityShape,
        flowShape, testShape] at same
  cases entry with
  | declaration model function =>
      obtain rfl := Option.some.inj laidOut
      cases other with
      | declaration => simpa [layout?, eq_comm] using otherLaidOut
      | item known => exact absurd (Option.some.inj otherLaidOut) (apart model function known)
      | signature => cases otherLaidOut
  | item stated =>
      obtain rfl := Option.some.inj laidOut
      cases other with
      | declaration model function =>
          exact absurd (Option.some.inj otherLaidOut).symm (apart model function stated)
      | item known => rw [Item.layout_injective (Option.some.inj otherLaidOut)]
      | signature => cases otherLaidOut
  | signature => cases laidOut

theorem fitsLeast_of_layout?
    {line : List Char}
    {entry : Entry}
    {layout : Layout}
    (laidOut : entry.layout? = some layout) :
    FitsLeast line entry ↔ layout.FitsLeast line := by
  cases entry with
  | declaration model function =>
      obtain rfl := Option.some.inj laidOut
      exact Iff.rfl
  | item stated =>
      obtain rfl := Option.some.inj laidOut
      exact Iff.rfl
  | signature code name => cases laidOut

theorem eq_signature_of_layout?_eq_none
    {entry : Entry}
    (none : entry.layout? = none) :
    ∃ code name, entry = .signature code name := by
  cases entry with
  | signature code name => exact ⟨code, name, rfl⟩
  | declaration => cases none
  | item => cases none

/-- A line that fits a layout is no signature. -/
theorem Layout.FitsLeast.not_signature
    {line : List Char}
    {layout : Layout}
    (least : layout.FitsLeast line)
    (code name : String) :
    ¬Entry.FitsLeast line (.signature code name) := by
  rintro ⟨gap, parameters, signs, _⟩
  obtain ⟨text, comment, _⟩ := least.fits
  exact not_signatureFits comment signs.fits

/-- A line has at most one least fit. -/
theorem FitsLeast.unique
    {line : List Char}
    {entry other : Entry}
    (least : FitsLeast line entry)
    (otherLeast : FitsLeast line other) :
    entry = other := by
  cases laidOut : entry.layout? with
  | some layout =>
      have comment := (fitsLeast_of_layout? laidOut).mp least
      cases otherLaidOut : other.layout? with
      | some otherLayout =>
          have otherComment := (fitsLeast_of_layout? otherLaidOut).mp otherLeast
          obtain rfl := comment.unique (shape_mem_shapes laidOut) (shape_mem_shapes otherLaidOut)
            otherComment
          exact layout?_injective laidOut otherLaidOut
      | none =>
          obtain ⟨code, name, rfl⟩ := eq_signature_of_layout?_eq_none otherLaidOut
          exact absurd otherLeast (comment.not_signature code name)
  | none =>
      obtain ⟨code, name, rfl⟩ := eq_signature_of_layout?_eq_none laidOut
      cases otherLaidOut : other.layout? with
      | some otherLayout =>
          have otherComment := (fitsLeast_of_layout? otherLaidOut).mp otherLeast
          exact absurd least (otherComment.not_signature code name)
      | none =>
          obtain ⟨otherCode, otherName, rfl⟩ := eq_signature_of_layout?_eq_none otherLaidOut
          obtain ⟨gap, parameters, signs, written⟩ := least
          obtain ⟨otherGap, otherParameters, otherSigns, otherWritten⟩ := otherLeast
          obtain ⟨sameName, rfl⟩ := signs.unique otherSigns
          rw [← sameName, ← written] at otherWritten
          rw [String.toList_inj.mp sameName, String.toList_inj.mp otherWritten]

end ThreatModel.Entry
