import Mathlib.Data.List.Basic
import Mathlib.Data.List.Flatten
import Mathlib.Logic.Relation
import ThreatModel.Proofs.Settings.Fields
import ThreatModel.Settings.Check

/-!
Contract: the settings that a mapping makes, and the faults of those that make none.

Owns:
- the fields of the settings and of their sections, in order, with what each asks of
  its value;
- that edits which concern no field make no difference;
- that a mapping fails for the fields that fail by themselves, and tells the fault of
  each of them in the order of the fields;
- that settings are read back from what is written of them.

Does not own: what a single value is good for.
-/

namespace ThreatModel

open ThreatModel.Yaml (Value)

namespace Settings

/-! ## The fields -/

def titleFields : Fields :=
  [("title", fun value => problem? (textOrNothing value))]

def reportSection : Section where
  name := "report"
  kind := "ReportConfig"
  fields :=
    [("format", fun value =>
        problem? (choice (ReportFormat.all.map ReportFormat.name) ReportFormat.ofName? value)),
      ("output", fun value => problem? (textOrNothing value))]

def diagramSection : Section where
  name := "diagram"
  kind := "DiagramConfig"
  fields :=
    [("enabled", fun value => problem? (flag value)),
      ("format", fun value =>
        problem? (choice (DiagramFormat.all.map DiagramFormat.name) DiagramFormat.ofName? value)),
      ("output", fun value => problem? (text value)),
      ("rankdir", fun value =>
        problem? (choice (RankDirection.all.map RankDirection.name) RankDirection.ofName? value))]

def sections : List Section :=
  [reportSection, diagramSection]

/-- The names that are known in a mapping of settings. -/
def names : List String :=
  titleFields.map Prod.fst ++ sections.map Section.name

/-- The fields that a mapping of settings has, those of its sections among them, in order. -/
def given (pairs : List (Value × Value)) : List GivenField :=
  givenAmong titleFields pairs ++ sections.flatMap (·.given pairs)

/-- The places at which there can be something in a mapping of settings, in order. -/
def places : List (List String) :=
  titleFields.map (fun field => [field.1]) ++ sections.flatMap Section.places

theorem given_places (pairs : List (Value × Value)) :
    ((given pairs).map GivenField.place).Sublist places := by
  rw [given, List.map_append, List.map_flatMap]
  exact (givenAmong_places titleFields pairs).append
    (List.Sublist.flatMap_right sections fun part _ => part.given_places pairs)

theorem ofTitle :
    Fieldwise titleFields fun pairs => field pairs "title" (none : Option String) textOrNothing :=
  .ofField "title" none textOrNothing

theorem ofReport : Fieldwise reportSection.fields ReportSettings.ofPairs :=
  .ofJoin _ (.ofField _ _ _) (.ofField _ _ _)

theorem ofDiagram : Fieldwise diagramSection.fields DiagramSettings.ofPairs :=
  .ofJoin _ (.ofJoin _ (.ofField _ _ _) (.ofField _ _ _))
    (.ofJoin _ (.ofField _ _ _) (.ofField _ _ _))

theorem ofPairs_eq (pairs : List (Value × Value)) :
    ofPairs pairs =
      join (fun (title, report) diagram => ⟨title, report, diagram⟩)
        (join Prod.mk
          (field pairs "title" none textOrNothing)
          (group pairs reportSection.name reportSection.kind {} ReportSettings.ofPairs))
        (group pairs diagramSection.name diagramSection.kind {} DiagramSettings.ofPairs) :=
  rfl

theorem faultsOf_ofPairs (pairs : List (Value × Value)) :
    faultsOf (ofPairs pairs) = (given pairs).filterMap GivenField.fault? := by
  have parts : given pairs =
      (givenAmong titleFields pairs ++ reportSection.given pairs) ++ diagramSection.given pairs := by
    rw [given, sections, List.flatMap_cons, List.flatMap_singleton, List.append_assoc]
  rw [ofPairs_eq, faultsOf_join, faultsOf_join, ofTitle.tells, Section.tells ofReport,
    Section.tells ofDiagram, ← List.filterMap_append, ← List.filterMap_append, parts]

theorem told_ofPairs (pairs : List (Value × Value)) : Told (ofPairs pairs) :=
  ((ofTitle.told pairs).join (Section.told ofReport {} pairs)).join
    (Section.told ofDiagram {} pairs)

/-! ## Edits -/

/-- One edit of a mapping of settings that concerns no field, in the mapping or in a section. -/
inductive Edit : (pairs others : List (Value × Value)) → Prop where
  | outside {pairs others : List (Value × Value)}
      (edit : MappingEdit names pairs others) :
      Edit pairs others
  | inside (front back : List (Value × Value))
      {part : Section}
      (isSection : part ∈ sections)
      {inner other : List (Value × Value)}
      (edit : MappingEdit (part.fields.map Prod.fst) inner other) :
      Edit (front ++ (.text part.name, .mapping inner) :: back)
        (front ++ (.text part.name, .mapping other) :: back)

theorem eq_of_mem_sections
    {part : Section}
    (isSection : part ∈ sections) :
    part = reportSection ∨ part = diagramSection := by
  rw [sections, List.mem_cons, List.mem_singleton] at isSection
  exact isSection

/-- A section is no field of another name. -/
theorem field?_inside
    {part : Section}
    {name : String}
    (apart : part.name ≠ name)
    (front back : List (Value × Value))
    (value other : Value) :
    Yaml.field? (front ++ (.text part.name, other) :: back) name =
      Yaml.field? (front ++ (.text part.name, value) :: back) name := by
  have different : Value.text part.name ≠ .text name :=
    fun equal => apart (Value.text.inj equal)
  rw [Yaml.field?_insert front back different, Yaml.field?_insert front back different]

theorem Edit.same
    {pairs others : List (Value × Value)}
    (edit : Edit pairs others) :
    ofPairs others = ofPairs pairs := by
  rw [ofPairs_eq, ofPairs_eq]
  cases edit with
  | outside edit =>
      have title : Yaml.field? others "title" = Yaml.field? pairs "title" :=
        edit.field?_eq (by decide)
      have report : Yaml.field? others reportSection.name = Yaml.field? pairs reportSection.name :=
        edit.field?_eq (by decide)
      have diagram :
          Yaml.field? others diagramSection.name = Yaml.field? pairs diagramSection.name :=
        edit.field?_eq (by decide)
      rw [field_congr title, group_congr report, group_congr diagram]
  | @inside front back part isSection inner other edit =>
      have apart : part.name ≠ "title" := by
        rcases eq_of_mem_sections isSection with rfl | rfl <;> decide
      have title := field?_inside apart front back (.mapping inner) (.mapping other)
      have report : part.name = reportSection.name →
          ReportSettings.ofPairs other = ReportSettings.ofPairs inner := by
        rcases eq_of_mem_sections isSection with rfl | rfl
        · exact fun _ => ofReport.ofEdit edit
        · exact fun isName => absurd isName (by decide)
      have diagram : part.name = diagramSection.name →
          DiagramSettings.ofPairs other = DiagramSettings.ofPairs inner := by
        rcases eq_of_mem_sections isSection with rfl | rfl
        · exact fun isName => absurd isName (by decide)
        · exact fun _ => ofDiagram.ofEdit edit
      rw [field_congr title, group_inside report, group_inside diagram]

/-! ## Fields by themselves -/

theorem given_of_mem_sections
    {part : Section}
    (isSection : part ∈ sections)
    (value : Value) :
    given [(.text part.name, value)] = part.ofValue value := by
  rw [← Section.given_single, given, sections, List.flatMap_cons, List.flatMap_singleton]
  rcases eq_of_mem_sections isSection with rfl | rfl
  · exact List.append_nil _
  · rfl

/-- A field that is there is there by itself as well. -/
theorem given_alone
    {pairs : List (Value × Value)}
    {field : GivenField}
    (isGiven : field ∈ given pairs) :
    given field.alone = [field] := by
  rw [given, List.mem_append, List.mem_flatMap] at isGiven
  rcases isGiven with isTitle | ⟨part, isSection, inSection⟩
  · obtain ⟨known, isKnown, value, -, rfl⟩ := mem_givenAmong_iff.mp isTitle
    cases List.mem_singleton.mp isKnown
    rfl
  · have distinct : (part.fields.map Prod.fst).Nodup := by
      rcases eq_of_mem_sections isSection with rfl | rfl <;> decide
    obtain ⟨value, isAlone, ofValue⟩ := Section.exists_alone distinct inSection
    rw [isAlone, given_of_mem_sections isSection, ofValue]

/-- A field by itself has the fault that it has among others. -/
theorem faultsOf_alone
    {pairs : List (Value × Value)}
    {field : GivenField}
    (isGiven : field ∈ given pairs) :
    faultsOf (ofPairs field.alone) = field.fault?.toList := by
  rw [faultsOf_ofPairs, given_alone isGiven, List.filterMap_cons, List.filterMap_nil]
  cases field.fault? <;> rfl

theorem alone_fails_iff
    {pairs : List (Value × Value)}
    {field : GivenField}
    (isGiven : field ∈ given pairs) :
    (∃ faults, ofPairs field.alone = .error faults) ↔ ∃ fault, field.fault? = some fault := by
  rw [(told_ofPairs field.alone).exists_error_iff, faultsOf_alone isGiven]
  exact exists_congr fun _ => Option.mem_toList

theorem fails_iff (pairs : List (Value × Value)) :
    (∃ faults, ofPairs pairs = .error faults) ↔
      ∃ field ∈ given pairs, ∃ faults, ofPairs field.alone = .error faults := by
  rw [(told_ofPairs pairs).exists_error_iff, faultsOf_ofPairs]
  constructor
  · rintro ⟨fault, isFault⟩
    obtain ⟨field, isGiven, hasFault⟩ := List.mem_filterMap.mp isFault
    exact ⟨field, isGiven, (alone_fails_iff isGiven).mpr ⟨fault, hasFault⟩⟩
  · rintro ⟨field, isGiven, fails⟩
    obtain ⟨fault, hasFault⟩ := (alone_fails_iff isGiven).mp fails
    exact ⟨fault, List.mem_filterMap.mpr ⟨field, isGiven, hasFault⟩⟩

/-! ## Settings as they are written -/

/-- The settings are read back from the mapping that they are written as. -/
def ReadBack {α : Type}
    (written : α → Value)
    (check : List (Value × Value) → Checked α) : Prop :=
  ∀ settings, ∃ pairs, written settings = .mapping pairs ∧ check pairs = .ok settings

section Found

variable
  {α : Type}
  {pairs : List (Value × Value)}
  {name : String}
  {checked : α}

theorem field_eq_ok
    {value : Value}
    {check : Value → Except Problem α}
    (found : Yaml.field? pairs name = some value)
    (passes : check value = .ok checked)
    (usual : α) :
    field pairs name usual check = .ok checked := by
  rw [field, found]
  dsimp only
  rw [passes]

theorem group_eq_ok
    {inner : List (Value × Value)}
    {check : List (Value × Value) → Checked α}
    (found : Yaml.field? pairs name = some (.mapping inner))
    (passes : check inner = .ok checked)
    (kind : String)
    (usual : α) :
    group pairs name kind usual check = .ok checked := by
  rw [group, found]
  dsimp only
  rw [passes]

end Found

theorem textOrNothing_textOrNull (given : Option String) :
    textOrNothing (textOrNull given) = .ok given := by
  cases given <;> rfl

/-- A name is a choice of what it is read as. -/
theorem choice_eq_ok
    {α : Type}
    {ofName? : String → Option α}
    {name : String}
    {chosen : α}
    (reads : ofName? name = some chosen)
    (names : List String) :
    choice names ofName? (.text name) = .ok chosen := by
  rw [choice, reads]

theorem readBack_report : ReadBack ReportSettings.toValue ReportSettings.ofPairs := by
  intro settings
  have format : ReportFormat.ofName? settings.format.name = some settings.format := by
    cases settings.format <;> rfl
  refine ⟨_, rfl, ?_⟩
  rw [ReportSettings.ofPairs,
    field_eq_ok rfl (choice_eq_ok format _),
    field_eq_ok rfl (textOrNothing_textOrNull settings.output)]
  rfl

theorem readBack_diagram : ReadBack DiagramSettings.toValue DiagramSettings.ofPairs := by
  intro settings
  have format : DiagramFormat.ofName? settings.format.name = some settings.format := by
    cases settings.format <;> rfl
  have direction : RankDirection.ofName? settings.direction.name = some settings.direction := by
    cases settings.direction <;> rfl
  have enabled : flag (.boolean settings.enabled) = .ok settings.enabled := rfl
  have output : text (.text settings.output) = .ok settings.output := rfl
  refine ⟨_, rfl, ?_⟩
  rw [DiagramSettings.ofPairs,
    field_eq_ok rfl enabled,
    field_eq_ok rfl (choice_eq_ok format _),
    field_eq_ok rfl output,
    field_eq_ok rfl (choice_eq_ok direction _)]
  rfl

theorem readBack_settings : ReadBack toValue ofPairs := by
  intro settings
  obtain ⟨report, reportWritten, reportRead⟩ := readBack_report settings.report
  obtain ⟨diagram, diagramWritten, diagramRead⟩ := readBack_diagram settings.diagram
  refine ⟨_, rfl, ?_⟩
  rw [reportWritten, diagramWritten, ofPairs_eq,
    field_eq_ok rfl (textOrNothing_textOrNull settings.title),
    group_eq_ok rfl reportRead, group_eq_ok rfl diagramRead]
  rfl

/-! ## All fields together -/

/-- Edits that concern no field make no difference. A mapping fails just if a field that it has
fails by itself, and tells the one fault of each such field in the order of the fields. Settings
are read back from the mapping that they are written as. -/
theorem ofPairs_fieldwise (pairs : List (Value × Value)) :
    (∀ others, Relation.EqvGen Edit pairs others → ofPairs others = ofPairs pairs) ∧
      ((∃ faults, ofPairs pairs = .error faults) ↔
        ∃ field ∈ given pairs, ∃ faults, ofPairs field.alone = .error faults) ∧
      (∀ faults, ofPairs pairs = .error faults →
        faults = ((given pairs).flatMap fun field => faultsOf (ofPairs field.alone)) ∧
          (faults.map Fault.place).Sublist places) ∧
      (∀ field ∈ given pairs, faultsOf (ofPairs field.alone) = field.fault?.toList) ∧
      ∀ settings : Settings, ∃ written, settings.toValue = .mapping written ∧
        ofPairs written = .ok settings := by
  refine ⟨?_, fails_iff pairs, ?_, fun _ => faultsOf_alone, readBack_settings⟩
  · intro others edited
    induction edited with
    | rel _ _ edit => exact edit.same
    | refl _ => rfl
    | symm _ _ _ inductionHypothesis => exact inductionHypothesis.symm
    | trans _ _ _ _ _ first second => exact second.trans first
  · intro faults fails
    have told : faults = (given pairs).filterMap GivenField.fault? := by
      rw [← faultsOf_ofPairs, fails, faultsOf]
    refine ⟨?_, told ▸ (faults_places _).trans (given_places pairs)⟩
    rw [told, List.filterMap_eq_flatMap_toList]
    exact List.flatMap_congr fun _ isGiven => (faultsOf_alone isGiven).symm

/-- A title that is no text. -/
def wrongTitle : Value × Value :=
  (.text "title", .integer 5)

/-- A direction that there is not. -/
def wrongDirection : Value × Value :=
  (.text "rankdir", .text "up")

def spelledFlag : Value × Value :=
  (.text "enabled", .text "Yes")

def mistaken : List (Value × Value) :=
  [(.text "diagram", .mapping [wrongDirection, spelledFlag]), wrongTitle]

/-- The same fields the other way round, with other keys between them. -/
def mistakenAgain : List (Value × Value) :=
  [wrongTitle, (.text "owner", .null),
    (.text "diagram", .mapping [spelledFlag, (.integer 7, .null), wrongDirection])]

theorem mistaken_edited : Relation.EqvGen Edit mistaken mistakenAgain := by
  have isSection : diagramSection ∈ sections := .tail _ (.head _)
  have unknownOwner : ∀ name ∈ names, (Value.text "owner").name? ≠ some name := by
    decide
  have unknownNumber :
      ∀ name ∈ diagramSection.fields.map Prod.fst, (Value.integer 7).name? ≠ some name := by
    decide
  have turned : Edit mistaken mistaken.reverse :=
    .outside (.reorder (by decide) (.swap _ _ []))
  have owned : Edit mistaken.reverse _ :=
    .outside (.extend [wrongTitle] _ unknownOwner .null)
  have turnedInside :
      MappingEdit (diagramSection.fields.map Prod.fst)
        [wrongDirection, spelledFlag] [spelledFlag, wrongDirection] :=
    .reorder (by decide) (.swap _ _ [])
  have numberedInside :
      MappingEdit (diagramSection.fields.map Prod.fst)
        ([spelledFlag] ++ [wrongDirection]) _ :=
    .extend [spelledFlag] [wrongDirection] unknownNumber .null
  exact ((Relation.EqvGen.rel _ _ turned).trans _ _ _ (.rel _ _ owned)).trans _ _ _
    ((Relation.EqvGen.rel _ _ (.inside [wrongTitle, _] [] isSection turnedInside)).trans _ _ _
      (.rel _ _ (.inside [wrongTitle, _] [] isSection numberedInside)))

/-- Both mistakes are told in the order of the fields, however the keys stand. -/
theorem mistaken_faults :
    Relation.EqvGen Edit mistaken mistakenAgain ∧
      ofPairs mistakenAgain = ofPairs mistaken ∧
      ofPairs mistaken = .error
        [⟨["title"], .notText⟩, ⟨["diagram", "rankdir"], .notAmong ["LR", "TB", "RL", "BT"]⟩] ∧
      [["title"], ["diagram", "rankdir"]].Sublist places ∧
      ⟨["title"], .integer 5, some .notText⟩ ∈ given mistaken ∧
      faultsOf (ofPairs [wrongTitle]) = [⟨["title"], .notText⟩] := by
  obtain ⟨same, -, tells, alone, -⟩ := ofPairs_fieldwise mistaken
  have fails : ofPairs mistaken = .error
      [⟨["title"], .notText⟩, ⟨["diagram", "rankdir"], .notAmong ["LR", "TB", "RL", "BT"]⟩] := by
    decide +kernel
  have isGiven : ⟨["title"], .integer 5, some .notText⟩ ∈ given mistaken :=
    List.mem_append_left _ (.head _)
  exact ⟨mistaken_edited, same mistakenAgain mistaken_edited, fails, (tells _ fails).2, isGiven,
    alone _ isGiven⟩

end Settings

end ThreatModel
