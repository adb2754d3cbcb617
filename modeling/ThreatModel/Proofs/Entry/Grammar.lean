import Mathlib.Data.List.Basic
import ThreatModel.Proofs.Entry.Layout

/-!
Contract: the grammar that lines are read by.

Owns:
- what each recognizer answers, in terms of the least fit of a line;
- the reading of a line: its least fit, and nothing just when it has no fit.

Does not own: what a ledger makes of a reading.
-/

namespace ThreatModel.Entry

open ThreatModel.Text

variable {line : List Char} {entry : Entry}

/-! ## Recognizers of one shape -/

theorem inComment_eq_some_iff {read : List Char → Option Entry} :
    inComment read line = some entry ↔
      ∃ body, commentBody? line = some body ∧ read body = some entry :=
  Option.bind_eq_some_iff

section Shape

variable {shape : Shape} (member : shape ∈ shapes) {read : List Char → Option Entry}

include member

/-- The answer of a recognizer of a shape with two fields. -/
theorem inComment_pair_eq_some_iff
    (build : (first second : String) → Option String → Entry)
    (reads : ∀ body,
      read body =
        match shape.read? body with
        | some ([first, second], ref) =>
            some (build (.ofList first) (.ofList second) (ref.map .ofList))
        | _ => none) :
    inComment read line = some entry ↔
      ∃ first second ref,
        entry = build first second ref ∧ Layout.FitsLeast line ⟨shape, [first, second], ref⟩ := by
  have keyed := isKeyed_of_mem_shapes shape member
  simp only [inComment_eq_some_iff, reads]
  constructor
  · rintro ⟨body, isBody, answers⟩
    split at answers
    · rename_i first second ref found
      have least : shape.FitsLeast line [first, second] ref :=
        (Shape.readLine?_eq_some_iff_fitsLeast keyed).mp
          (Option.bind_eq_some_iff.mpr ⟨body, isBody, found⟩)
      refine ⟨.ofList first, .ofList second, ref.map .ofList, (Option.some.inj answers).symm, ?_⟩
      simpa [Layout.FitsLeast, Function.comp_def] using least
    · cases answers
  · rintro ⟨first, second, ref, rfl, least⟩
    obtain ⟨body, isBody, found⟩ := Option.bind_eq_some_iff.mp
      ((Shape.readLine?_eq_some_iff_fitsLeast keyed).mpr least)
    refine ⟨body, isBody, ?_⟩
    rw [found]
    simp [Function.comp_def]

/-- The answer of a recognizer of a shape with three fields. -/
theorem inComment_triple_eq_some_iff
    (build : (first second third : String) → Option String → Entry)
    (reads : ∀ body,
      read body =
        match shape.read? body with
        | some ([first, second, third], ref) =>
            some (build (.ofList first) (.ofList second) (.ofList third) (ref.map .ofList))
        | _ => none) :
    inComment read line = some entry ↔
      ∃ first second third ref,
        entry = build first second third ref ∧
          Layout.FitsLeast line ⟨shape, [first, second, third], ref⟩ := by
  have keyed := isKeyed_of_mem_shapes shape member
  simp only [inComment_eq_some_iff, reads]
  constructor
  · rintro ⟨body, isBody, answers⟩
    split at answers
    · rename_i first second third ref found
      have least : shape.FitsLeast line [first, second, third] ref :=
        (Shape.readLine?_eq_some_iff_fitsLeast keyed).mp
          (Option.bind_eq_some_iff.mpr ⟨body, isBody, found⟩)
      refine ⟨.ofList first, .ofList second, .ofList third, ref.map .ofList,
        (Option.some.inj answers).symm, ?_⟩
      simpa [Layout.FitsLeast, Function.comp_def] using least
    · cases answers
  · rintro ⟨first, second, third, ref, rfl, least⟩
    obtain ⟨body, isBody, found⟩ := Option.bind_eq_some_iff.mp
      ((Shape.readLine?_eq_some_iff_fitsLeast keyed).mpr least)
    refine ⟨body, isBody, ?_⟩
    rw [found]
    simp [Function.comp_def]

end Shape

/-! ## Recognizers of annotations -/

/-- Where only blanks may follow the last field, there is no reference. -/
theorem Layout.FitsLeast.ref_eq_none
    {layout : Layout}
    (least : layout.FitsLeast line)
    (ending : layout.shape.ending = .blank) :
    layout.ref = none := by
  obtain ⟨text, _, cut⟩ := least.fits
  rw [ending] at cut
  exact Option.map_eq_none_iff.mp cut.ref_eq_none

theorem declaration?_eq_some_iff :
    inComment declaration? line = some entry ↔
      ∃ model function ref,
        entry = .declaration model function ∧
          Layout.FitsLeast line ⟨declarationShape, [model, function], ref⟩ :=
  inComment_pair_eq_some_iff (by simp [shapes])
    (fun model function _ => .declaration model function) fun _ => rfl

theorem mitigation?_eq_some_iff :
    inComment mitigation? line = some entry ↔
      ∃ component threat text ref,
        entry = .item (.mitigation component threat text ref) ∧
          Layout.FitsLeast line ⟨mitigationShape, [component, threat, text], ref⟩ :=
  inComment_triple_eq_some_iff (by simp [shapes])
    (fun component threat text ref => .item (.mitigation component threat text ref)) fun _ => rfl

theorem exposure?_eq_some_iff :
    inComment exposure? line = some entry ↔
      ∃ component threat text ref,
        entry = .item (.exposure component threat text ref) ∧
          Layout.FitsLeast line ⟨exposureShape, [component, threat, text], ref⟩ :=
  inComment_triple_eq_some_iff (by simp [shapes])
    (fun component threat text ref => .item (.exposure component threat text ref)) fun _ => rfl

theorem activity?_eq_some_iff :
    inComment activity? line = some entry ↔
      ∃ action component ref,
        entry = .item (.activity action component ref) ∧
          Layout.FitsLeast line ⟨activityShape, [action, component], ref⟩ :=
  inComment_pair_eq_some_iff (by simp [shapes])
    (fun action component ref => .item (.activity action component ref)) fun _ => rfl

theorem flow?_eq_some_iff {direction : Direction} :
    inComment (flow? direction) line = some entry ↔
      ∃ subject source dest ref,
        entry = .item (.flow direction subject source dest) ∧
          Layout.FitsLeast line ⟨flowShape direction, [subject, source, dest], ref⟩ :=
  inComment_triple_eq_some_iff (by cases direction <;> simp [shapes])
    (fun subject source dest _ => .item (.flow direction subject source dest)) fun _ => rfl

theorem test?_eq_some_iff :
    inComment test? line = some entry ↔
      ∃ function threat ref,
        entry = .item (.test function threat ref) ∧
          Layout.FitsLeast line ⟨testShape, [function, threat], ref⟩ :=
  inComment_pair_eq_some_iff (by simp [shapes])
    (fun function threat ref => .item (.test function threat ref)) fun _ => rfl

theorem signatureLine?_eq_some_iff :
    signatureLine? line = some entry ↔
      ∃ code name, entry = .signature code name ∧ FitsLeast line (.signature code name) := by
  unfold signatureLine?
  rw [Option.map_eq_some_iff]
  constructor
  · rintro ⟨⟨name, parameters⟩, reads, rfl⟩
    obtain ⟨gap, least⟩ := signature?_eq_some_iff.mp reads
    exact ⟨.ofList (name ++ '(' :: parameters), .ofList name, rfl, gap, parameters,
      by rwa [String.toList_ofList], by simp⟩
  · rintro ⟨code, name, rfl, gap, parameters, least, written⟩
    refine ⟨(name.toList, parameters), signature?_eq_some_iff.mpr ⟨gap, least⟩, ?_⟩
    show Entry.signature (.ofList (name.toList ++ '(' :: parameters)) (.ofList name.toList) =
      .signature code name
    rw [← written, String.ofList_toList, String.ofList_toList]

/-- A flow is read in one of its directions. -/
theorem exists_direction
    (answers :
      inComment (fun body => (flow? .sends body).or (flow? .receives body)) line = some entry) :
    ∃ direction, inComment (flow? direction) line = some entry := by
  obtain ⟨body, isBody, either⟩ := inComment_eq_some_iff.mp answers
  rcases Option.or_eq_some_iff.mp either with sent | ⟨_, received⟩
  · exact ⟨.sends, inComment_eq_some_iff.mpr ⟨body, isBody, sent⟩⟩
  · exact ⟨.receives, inComment_eq_some_iff.mpr ⟨body, isBody, received⟩⟩

/-! ## The reading of a line -/

/-- Every recognizer answers with the least fit. -/
theorem fitsLeast_of_recognizer
    {recognizer : Recognizer}
    (known : recognizer ∈ recognizers)
    (answers : recognizer line = some entry) :
    FitsLeast line entry := by
  simp only [recognizers, List.mem_cons, List.not_mem_nil, or_false] at known
  rcases known with rfl | rfl | rfl | rfl | rfl | rfl | rfl
  · obtain ⟨model, function, ref, rfl, least⟩ := declaration?_eq_some_iff.mp answers
    obtain rfl : ref = none := least.ref_eq_none rfl
    exact least
  · obtain ⟨component, threat, text, ref, rfl, least⟩ := mitigation?_eq_some_iff.mp answers
    exact least
  · obtain ⟨component, threat, text, ref, rfl, least⟩ := exposure?_eq_some_iff.mp answers
    exact least
  · obtain ⟨action, component, ref, rfl, least⟩ := activity?_eq_some_iff.mp answers
    exact least
  · obtain ⟨direction, reads⟩ := exists_direction answers
    obtain ⟨subject, source, dest, ref, rfl, least⟩ := flow?_eq_some_iff.mp reads
    obtain rfl : ref = none := least.ref_eq_none rfl
    exact least
  · obtain ⟨function, threat, ref, rfl, least⟩ := test?_eq_some_iff.mp answers
    exact least
  · obtain ⟨code, name, rfl, least⟩ := signatureLine?_eq_some_iff.mp answers
    exact least

/-- Either direction of a flow is recognized. -/
theorem flow_recognized
    {direction : Direction}
    {subject source dest : String}
    (least : FitsLeast line (.item (.flow direction subject source dest))) :
    ∃ found,
      inComment (fun body => (flow? .sends body).or (flow? .receives body)) line = some found := by
  obtain ⟨body, isBody, reads⟩ := inComment_eq_some_iff.mp
    (flow?_eq_some_iff.mpr ⟨subject, source, dest, none, rfl, least⟩)
  have either : ∃ found, (flow? .sends body).or (flow? .receives body) = some found := by
    cases direction with
    | sends => exact ⟨_, by rw [reads, Option.some_or]⟩
    | receives =>
        rw [reads]
        cases flow? .sends body with
        | none => exact ⟨_, rfl⟩
        | some found => exact ⟨found, rfl⟩
  obtain ⟨found, answers⟩ := either
  exact ⟨found, inComment_eq_some_iff.mpr ⟨body, isBody, answers⟩⟩

theorem exists_recognizer
    (least : FitsLeast line entry) :
    ∃ recognizer ∈ recognizers, ∃ found, recognizer line = some found := by
  cases entry with
  | declaration model function =>
      exact ⟨_, by simp [recognizers], _,
        declaration?_eq_some_iff.mpr ⟨model, function, none, rfl, least⟩⟩
  | signature code name =>
      exact ⟨_, by simp [recognizers], _,
        signatureLine?_eq_some_iff.mpr ⟨code, name, rfl, least⟩⟩
  | item stated =>
      cases stated with
      | mitigation component threat text ref =>
          exact ⟨_, by simp [recognizers], _,
            mitigation?_eq_some_iff.mpr ⟨component, threat, text, ref, rfl, least⟩⟩
      | exposure component threat text ref =>
          exact ⟨_, by simp [recognizers], _,
            exposure?_eq_some_iff.mpr ⟨component, threat, text, ref, rfl, least⟩⟩
      | activity action component ref =>
          exact ⟨_, by simp [recognizers], _,
            activity?_eq_some_iff.mpr ⟨action, component, ref, rfl, least⟩⟩
      | flow direction subject source dest =>
          exact ⟨_, by simp [recognizers], flow_recognized least⟩
      | test function threat ref =>
          exact ⟨_, by simp [recognizers], _,
            test?_eq_some_iff.mpr ⟨function, threat, ref, rfl, least⟩⟩

theorem ofLine?_eq_some_iff
    {line : String} :
    ofLine? line = some entry ↔ FitsLeast (dropLineEnd line.toList) entry := by
  constructor
  · intro reads
    obtain ⟨recognizer, known, answers⟩ := List.exists_of_findSome?_eq_some reads
    exact fitsLeast_of_recognizer known answers
  · intro least
    obtain ⟨recognizer, known, found, answers⟩ := exists_recognizer least
    have isRead : (ofLine? line).isSome := by
      rw [ofLine?, List.findSome?_isSome_iff]
      exact ⟨recognizer, known, by rw [answers]; rfl⟩
    obtain ⟨chosen, reads⟩ := Option.isSome_iff_exists.mp isRead
    obtain ⟨other, otherKnown, otherAnswers⟩ := List.exists_of_findSome?_eq_some reads
    rw [reads, (fitsLeast_of_recognizer otherKnown otherAnswers).unique least]

/-- A line that fits a layout has a least fit of that shape. -/
theorem Layout.exists_fitsLeast
    {layout : Layout}
    (member : layout.shape ∈ shapes)
    (fits : layout.Fits line) :
    ∃ fields ref,
      fields.length = layout.fields.length ∧
        Layout.FitsLeast line ⟨layout.shape, fields, ref⟩ := by
  have keyed := isKeyed_of_mem_shapes layout.shape member
  obtain ⟨⟨fields, ref⟩, reads⟩ := Shape.readLine?_complete keyed fits
  have least := (Shape.readLine?_eq_some_iff_fitsLeast keyed).mp reads
  obtain ⟨_, _, cut⟩ := fits
  obtain ⟨_, _, leastCut⟩ := least.fits
  refine ⟨fields.map .ofList, ref.map .ofList, ?_, ?_⟩
  · have sameLength := leastCut.length_fields.trans cut.length_fields.symm
    simpa using sameLength
  · simpa [Layout.FitsLeast, Function.comp_def] using least

/-- A line that fits as an item fits least as an item of the same kind. -/
theorem Item.exists_fitsLeast
    {item : Item}
    (fits : item.layout.Fits line) :
    ∃ chosen : Item, chosen.layout.FitsLeast line := by
  have laidOut : layout? (.item item) = some item.layout := rfl
  have member := shape_mem_shapes laidOut
  obtain ⟨fields, ref, sameLength, least⟩ := Layout.exists_fitsLeast member fits
  cases item with
  | mitigation =>
      obtain ⟨component, threat, text, rfl⟩ := List.length_eq_three.mp sameLength
      exact ⟨.mitigation component threat text ref, least⟩
  | exposure =>
      obtain ⟨component, threat, text, rfl⟩ := List.length_eq_three.mp sameLength
      exact ⟨.exposure component threat text ref, least⟩
  | activity =>
      obtain ⟨action, component, rfl⟩ := List.length_eq_two.mp sameLength
      exact ⟨.activity action component ref, least⟩
  | flow direction =>
      obtain ⟨subject, source, dest, rfl⟩ := List.length_eq_three.mp sameLength
      obtain rfl : ref = none := least.ref_eq_none rfl
      exact ⟨.flow direction subject source dest, least⟩
  | test =>
      obtain ⟨function, threat, rfl⟩ := List.length_eq_two.mp sameLength
      exact ⟨.test function threat ref, least⟩

/-- A line that fits at all has a least fit. -/
theorem exists_fitsLeast (fits : Fits line entry) : ∃ chosen, FitsLeast line chosen := by
  cases entry with
  | declaration model function =>
      obtain ⟨fields, ref, sameLength, least⟩ := Layout.exists_fitsLeast (by simp [shapes]) fits
      obtain ⟨chosenModel, chosenFunction, rfl⟩ := List.length_eq_two.mp sameLength
      obtain rfl : ref = none := least.ref_eq_none rfl
      exact ⟨.declaration chosenModel chosenFunction, least⟩
  | item stated =>
      obtain ⟨chosen, least⟩ := Item.exists_fitsLeast fits
      exact ⟨.item chosen, least⟩
  | signature code name =>
      obtain ⟨gap, parameters, signs, _⟩ := fits
      obtain ⟨⟨chosenName, chosenParameters⟩, reads⟩ := signature?_complete signs
      have answers : signatureLine? line = some _ := Option.map_eq_some_iff.mpr ⟨_, reads, rfl⟩
      obtain ⟨_, _, _, least⟩ := signatureLine?_eq_some_iff.mp answers
      exact ⟨_, least⟩

theorem FitsLeast.fits (least : FitsLeast line entry) : Fits line entry := by
  cases entry with
  | declaration model function => exact Shape.FitsLeast.fits least
  | item stated => exact Shape.FitsLeast.fits least
  | signature code name =>
      obtain ⟨gap, parameters, signs, written⟩ := least
      exact ⟨gap, parameters, signs.fits, written⟩

theorem ofLine?_eq_none_iff {line : String} :
    ofLine? line = none ↔ ∀ entry, ¬Fits (dropLineEnd line.toList) entry := by
  constructor
  · intro unread entry fits
    obtain ⟨chosen, least⟩ := exists_fitsLeast fits
    rw [ofLine?_eq_some_iff.mpr least] at unread
    cases unread
  · intro nothing
    cases reads : ofLine? line with
    | none => rfl
    | some entry => exact absurd (ofLine?_eq_some_iff.mp reads).fits (nothing entry)

/-- A line, without its line end, is read as its least fit, and it is not read just when it has no
fit at all. -/
theorem ofLine?_follows_grammar (line : String) :
    (∀ entry, ofLine? line = some entry ↔ FitsLeast (dropLineEnd line.toList) entry) ∧
      (ofLine? line = none ↔ ∀ entry, ¬Fits (dropLineEnd line.toList) entry) :=
  ⟨fun _ => ofLine?_eq_some_iff, ofLine?_eq_none_iff⟩

end ThreatModel.Entry
