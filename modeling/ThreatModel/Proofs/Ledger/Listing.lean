import ThreatModel.Ledger.Basic
import ThreatModel.Proofs.Component.Keys
import ThreatModel.Proofs.Entry.Printer

/-!
Contract: the writing of declarations as annotations.

Owns:
- the line of a declaration, and of each of its records;
- what keeps the texts of a record apart on its line;
- that a legible line is read as the item that it was written from, and a
  reference as its component.

Does not own: the order of lines, and what a ledger makes of them.
-/

namespace ThreatModel

open ThreatModel.Entry ThreatModel.Text

/-! ## Components -/

namespace Component

/-- The component as an annotation spells it. -/
def spelling (component : Component) : List Char :=
  component.zone.toList ++ ':' :: component.name.toList

def reference (component : Component) : String :=
  String.ofList component.spelling

/-- Zone and name are not blank at either end, and no colon is in the zone. -/
structure Legible (component : Component) : Prop where
  zone : IsField component.zone.toList
  name : IsField component.name.toList
  zoneTrimmed : trim component.zone.toList = component.zone.toList
  nameTrimmed : trim component.name.toList = component.name.toList
  colonless : ':' ∉ component.zone.toList

instance (component : Component) : Decidable component.Legible :=
  decidable_of_iff
    (IsField component.zone.toList ∧ IsField component.name.toList ∧
      trim component.zone.toList = component.zone.toList ∧
      trim component.name.toList = component.name.toList ∧ ':' ∉ component.zone.toList)
    ⟨fun ⟨zone, name, zoneTrimmed, nameTrimmed, colonless⟩ =>
        ⟨zone, name, zoneTrimmed, nameTrimmed, colonless⟩,
      fun ⟨zone, name, zoneTrimmed, nameTrimmed, colonless⟩ =>
        ⟨zone, name, zoneTrimmed, nameTrimmed, colonless⟩⟩

@[simp] theorem toList_reference (component : Component) :
    component.reference.toList = component.spelling :=
  String.toList_ofList

namespace Legible

variable {component : Component} (legible : component.Legible)

include legible

/-- A legible reference is read as the component that it was written from. -/
theorem ofReference_reference : ofReference component.reference = component := by
  have split : splitReference? component.reference.toList =
      some (component.zone.toList, component.name.toList) := by
    rw [toList_reference, spelling, splitReference?_append legible.colonless]
  have neitherEmpty : ¬(component.zone.toList = [] ∨ component.name.toList = []) :=
    not_or.mpr ⟨legible.zone.inhabited, legible.name.inhabited⟩
  unfold ofReference
  simp only [split, legible.zoneTrimmed, legible.nameTrimmed, if_neg neitherEmpty,
    String.ofList_toList]

theorem isField_reference : IsField component.reference.toList := by
  rw [toList_reference]
  constructor
  · simp [spelling]
  · rw [spelling, List.mem_append, List.mem_cons, not_or, not_or]
    exact ⟨legible.zone.sameLine, by decide, legible.name.sameLine⟩

theorem endsInked_reference : EndsInked component.reference.toList := by
  have endsInked : EndsInked component.name.toList := legible.nameTrimmed ▸ endsInked_trim _
  have behindColon := endsInked.append legible.name.inhabited (component.zone.toList ++ [':'])
  rwa [List.append_assoc, List.singleton_append, ← spelling, ← toList_reference] at behindColon

end Legible

end Component

/-! ## Records -/

/-- A record of a declaration, of whichever kind. -/
inductive Record where
  | mitigation (finding : Finding)
  | exposure (finding : Finding)
  | activity (activity : Activity)
  | flow (flow : Flow)
  | test (test : TestRecord)
deriving DecidableEq, Repr

/-- A reference in parentheses, with a space before it. -/
def referenceText : Option String → String
  | none => ""
  | some ref => " (" ++ ref ++ ")"

namespace Record

def mitigation? : Record → Option Finding
  | .mitigation finding => some finding
  | _ => none

def exposure? : Record → Option Finding
  | .exposure finding => some finding
  | _ => none

def activity? : Record → Option Activity
  | .activity known => some known
  | _ => none

def flow? : Record → Option Flow
  | .flow known => some known
  | _ => none

def test? : Record → Option TestRecord
  | .test known => some known
  | _ => none

/-- The annotation of a record. -/
def line : Record → String
  | .mitigation finding =>
      "// Mitigates " ++ finding.component.reference ++ " against " ++ finding.threat ++ " with " ++
        finding.text ++ referenceText finding.ref
  | .exposure finding =>
      "// Exposes " ++ finding.component.reference ++ " to " ++ finding.threat ++ " with " ++
        finding.text ++ referenceText finding.ref
  | .activity known =>
      "// Does " ++ known.action ++ " for " ++ known.component.reference ++ referenceText known.ref
  | .flow known =>
      "// " ++ known.direction.keyword ++ " " ++ known.subject ++ " from " ++
        known.source.reference ++ " to " ++ known.dest.reference
  | .test known =>
      "// Tests " ++ known.function ++ " for " ++ known.threat ++ referenceText known.ref

/-- What the annotation of a record says. -/
def item : Record → Item
  | .mitigation finding =>
      .mitigation finding.component.reference finding.threat finding.text finding.ref
  | .exposure finding =>
      .exposure finding.component.reference finding.threat finding.text finding.ref
  | .activity known => .activity known.action known.component.reference known.ref
  | .flow known => .flow known.direction known.subject known.source.reference known.dest.reference
  | .test known => .test known.function known.threat known.ref

end Record

/-- A reference is free of newlines. -/
def LegibleRef (ref : Option String) : Prop :=
  ∀ text, ref = some text → '\n' ∉ text.toList

theorem legibleRef_iff {ref : Option String} :
    ref.all (fun text => '\n' ∉ text.toList) = true ↔ LegibleRef ref := by
  cases ref with
  | none => simp [LegibleRef]
  | some text => simp [LegibleRef]

instance (ref : Option String) : Decidable (LegibleRef ref) :=
  decidable_of_iff _ legibleRef_iff

/-- The last field of a line that may have a reference. -/
structure Closing (text : String) : Prop where
  isField : IsField text.toList
  endsInked : EndsInked text.toList
  unopened : '(' ∉ text.toList

instance (text : String) : Decidable (Closing text) :=
  decidable_of_iff (IsField text.toList ∧ EndsInked text.toList ∧ '(' ∉ text.toList)
    ⟨fun ⟨isField, endsInked, unopened⟩ => ⟨isField, endsInked, unopened⟩,
      fun ⟨isField, endsInked, unopened⟩ => ⟨isField, endsInked, unopened⟩⟩

/-- A field before a separator. -/
structure Opening (separator text : String) : Prop where
  isField : IsField text.toList
  clear : Clear separator.toList text.toList

instance (separator text : String) : Decidable (Opening separator text) :=
  decidable_of_iff (IsField text.toList ∧ Clear separator.toList text.toList)
    ⟨fun ⟨isField, clear⟩ => ⟨isField, clear⟩, fun ⟨isField, clear⟩ => ⟨isField, clear⟩⟩

/-- The texts of a record can be told apart on its line. -/
def Record.Legible : Record → Prop
  | .mitigation finding =>
      finding.component.Legible ∧ Clear " against ".toList finding.component.spelling ∧
        Opening " with " finding.threat ∧ Closing finding.text ∧ LegibleRef finding.ref
  | .exposure finding =>
      finding.component.Legible ∧ Clear " to ".toList finding.component.spelling ∧
        Opening " with " finding.threat ∧ Closing finding.text ∧ LegibleRef finding.ref
  | .activity known =>
      Opening " for " known.action ∧ known.component.Legible ∧
        '(' ∉ known.component.spelling ∧ LegibleRef known.ref
  | .flow known =>
      Opening " from " known.subject ∧ known.source.Legible ∧
        Clear " to ".toList known.source.spelling ∧ known.dest.Legible
  | .test known =>
      Opening " for " known.function ∧ Closing known.threat ∧ LegibleRef known.ref

instance (record : Record) : Decidable record.Legible := by
  cases record <;> unfold Record.Legible <;> infer_instance

theorem LegibleRef.reference
    {ref : Option String}
    (legible : LegibleRef ref) :
    LegibleReference .reference (ref.map String.toList) := by
  intro text isSome
  obtain ⟨given, known, rfl⟩ := Option.map_eq_some_iff.mp isSome
  exact ⟨rfl, legible given known⟩

theorem toList_referenceText (ref : Option String) :
    (referenceText ref).toList = referenceSuffix (ref.map String.toList) := by
  cases ref with
  | none => rfl
  | some text => simp [referenceText, referenceSuffix]

namespace Record

variable {record : Record}

theorem toList_line (record : Record) : record.line.toList = record.item.layout.line := by
  unfold line item Item.layout Layout.line
  cases record with
  | flow known =>
      obtain ⟨direction, subject, source, dest, raw⟩ := known
      simp only [flowShape, joined_cons, joined_single, referenceSuffix, String.toList_append,
        List.map_cons, List.map_nil, List.append_assoc, List.append_nil, Option.map_none]
      rfl
  | _ =>
      simp only [mitigationShape, exposureShape, activityShape, testShape, joined_cons,
        joined_single, String.toList_append, toList_referenceText, List.map_cons, List.map_nil,
        List.append_assoc]
      rfl

theorem Legible.layout (legible : record.Legible) : record.item.layout.Legible := by
  cases record with
  | mitigation finding =>
      obtain ⟨component, clear, threat, text, ref⟩ := legible
      rw [← finding.component.toList_reference] at clear
      exact ⟨.next component.isField_reference clear <| .next threat.isField threat.clear <|
        .last text.isField text.endsInked fun _ => text.unopened, ref.reference⟩
  | exposure finding =>
      obtain ⟨component, clear, threat, text, ref⟩ := legible
      rw [← finding.component.toList_reference] at clear
      exact ⟨.next component.isField_reference clear <| .next threat.isField threat.clear <|
        .last text.isField text.endsInked fun _ => text.unopened, ref.reference⟩
  | activity known =>
      obtain ⟨action, component, unopened, ref⟩ := legible
      rw [← known.component.toList_reference] at unopened
      exact ⟨.next action.isField action.clear <|
        .last component.isField_reference component.endsInked_reference fun _ => unopened,
        ref.reference⟩
  | flow known =>
      obtain ⟨subject, source, clear, dest⟩ := legible
      rw [← known.source.toList_reference] at clear
      refine ⟨.next subject.isField subject.clear <| .next source.isField_reference clear <|
        .last dest.isField_reference dest.endsInked_reference ?_, ?_⟩
      · intro other
        cases other
      · intro text isSome
        cases isSome
  | test known =>
      obtain ⟨function, threat, ref⟩ := legible
      exact ⟨.next function.isField function.clear <|
        .last threat.isField threat.endsInked fun _ => threat.unopened, ref.reference⟩

end Record

/-- The line that declares a function. -/
def Declaration.head (declaration : Declaration) : String :=
  "// ThreatSpec " ++ declaration.model ++ " for " ++ declaration.function

/-- The texts of a declaration line can be told apart. -/
structure Declaration.LegibleHead (declaration : Declaration) : Prop where
  model : Opening " for " declaration.model
  isField : IsField declaration.function.toList
  endsInked : EndsInked declaration.function.toList

instance (declaration : Declaration) : Decidable declaration.LegibleHead :=
  decidable_of_iff
    (Opening " for " declaration.model ∧ IsField declaration.function.toList ∧
      EndsInked declaration.function.toList)
    ⟨fun ⟨model, isField, endsInked⟩ => ⟨model, isField, endsInked⟩,
      fun ⟨model, isField, endsInked⟩ => ⟨model, isField, endsInked⟩⟩

/-! ## Lines -/

/-- The text is one line, kept as it stands, and says what the entry is. -/
structure Writes (entry : Entry) (text : String) : Prop where
  reads : ofLine? text = some entry
  raw : Ledger.rawLine text = text
  sameLine : '\n' ∉ text.toList

theorem Entry.Layout.Legible.writes
    {layout : Layout}
    {entry : Entry}
    {text : String}
    (legible : layout.Legible)
    (laidOut : entry.layout? = some layout)
    (spelled : text.toList = layout.line) :
    Writes entry text := by
  have member := shape_mem_shapes laidOut
  have uncut : dropLineEnd text.toList = text.toList := by
    rw [spelled, dropLineEnd_of_endsInked legible.endsInked_line]
  constructor
  · rw [ofLine?_eq_some_iff, fitsLeast_of_layout? laidOut, uncut, spelled]
    exact legible.fitsLeast member
  · rw [Ledger.rawLine, uncut, String.ofList_toList]
  · rw [spelled]
    exact legible.sameLine_line member

theorem Record.Legible.writes
    {record : Record}
    (legible : record.Legible) :
    Writes (.item record.item) record.line :=
  legible.layout.writes rfl record.toList_line

theorem Declaration.LegibleHead.writes
    {declaration : Declaration}
    (legible : declaration.LegibleHead) :
    Writes (.declaration declaration.model declaration.function) declaration.head := by
  have fields : Entry.Legible .blank [" for ".toList]
      [declaration.model.toList, declaration.function.toList] := by
    refine .next legible.model.isField legible.model.clear <|
      .last legible.isField legible.endsInked ?_
    intro other
    cases other
  have layout : Layout.Legible
      ⟨declarationShape, [declaration.model, declaration.function], none⟩ := by
    refine ⟨fields, ?_⟩
    intro text isSome
    cases isSome
  refine layout.writes rfl ?_
  unfold head Layout.line
  simp only [declarationShape, joined_cons, joined_single, referenceSuffix, String.toList_append,
    List.map_cons, List.map_nil, List.append_assoc, List.append_nil, Option.map_none]
  rfl

end ThreatModel
