import ThreatModel.Proofs.Entry.Printer
import ThreatModel.Proofs.Ledger.OneLine
import ThreatModel.Proofs.Ledger.Sources

/-!
Contract: functions and components that have a name.

Owns:
- texts with a character that is not blank, and components and declarations that are
  named by such texts;
- the names that a line writes, and which component a reference of blanks is;
- that the declarations of texts are named just when the names on their lines are
  written.

Does not own: models, threats and other texts that name nothing.
-/

namespace ThreatModel

open ThreatModel.Text

/-! ## Texts -/

/-- The text has a character that is not blank. -/
def Inked (text : String) : Prop :=
  ∃ character ∈ text.toList, isBlank character = false

theorem not_inked_iff {text : String} : ¬Inked text ↔ allBlank text.toList = true := by
  simp [Inked, allBlank_iff]

instance (text : String) : Decidable (Inked text) :=
  decidable_of_iff (¬allBlank text.toList = true) (by rw [← not_inked_iff, not_not])

/-- A trimmed text ends in a character that is not blank, unless nothing is left of it. -/
theorem inked_trim
    {text : List Char}
    (left : trim text ≠ []) :
    Inked (String.ofList (trim text)) := by
  have isLast := List.getLast?_eq_some_getLast left
  refine ⟨(trim text).getLast left, ?_, Entry.endsInked_trim text _ isLast⟩
  rw [String.toList_ofList]
  exact List.getLast_mem left

/-! ## Components -/

structure Component.Named (component : Component) : Prop where
  zone : Inked component.zone
  name : Inked component.name

instance (component : Component) : Decidable component.Named :=
  decidable_of_iff (Inked component.zone ∧ Inked component.name)
    ⟨fun ⟨zone, name⟩ => ⟨zone, name⟩, fun named => ⟨named.zone, named.name⟩⟩

namespace Component

variable {reference : String}

/-- A reference of blanks is the component without a zone and without a name. -/
theorem ofReference_of_blank (blank : ¬Inked reference) : ofReference reference = ⟨"", ""⟩ := by
  rw [not_inked_iff] at blank
  have nothing := trim_eq_nil_iff.mpr blank
  unfold ofReference
  cases split : splitReference? reference.toList with
  | none => simp only [nothing, String.ofList_nil]
  | some parts =>
      obtain ⟨zone, name⟩ := parts
      have colonBlank := allBlank_iff.mp blank ':' (by simp [(eq_of_splitReference? split).1])
      cases colonBlank

theorem named_ofReference_iff : (ofReference reference).Named ↔ Inked reference := by
  constructor
  · intro named
    by_contra blank
    rw [ofReference_of_blank blank] at named
    exact absurd named.zone (by decide)
  · intro inked
    have whole : Inked (String.ofList (trim reference.toList)) :=
      inked_trim fun nothing => not_inked_iff.mpr (trim_eq_nil_iff.mp nothing) inked
    unfold ofReference
    cases splitReference? reference.toList with
    | none => exact ⟨whole, whole⟩
    | some parts =>
        dsimp only
        split
        · exact ⟨whole, whole⟩
        · rename_i bothLeft
          rw [not_or] at bothLeft
          exact ⟨inked_trim bothLeft.1, inked_trim bothLeft.2⟩

end Component

/-! ## Names on a line -/

/-- The components that the item is about, as they are written. -/
def Entry.Item.references : Entry.Item → List String
  | .mitigation component _ _ _ => [component]
  | .exposure component _ _ _ => [component]
  | .activity _ component _ => [component]
  | .flow _ _ source dest => [source, dest]
  | .test _ _ _ => []

/-- The names of functions and components that the line writes. -/
def SourceLine.names (line : SourceLine) : List String :=
  match line.entry? with
  | some (.declaration _ function) => [function]
  | some (.item item) => item.references
  | _ => []

/-- What a line adds to a record is about the components that the line names. -/
theorem SourceLine.adds_iff_names
    (line : SourceLine)
    (undeclared : line.declares = false)
    (component : Component) :
    ((∃ finding, line.mitigation? = some finding ∧ finding.component = component) ∨
        (∃ finding, line.exposure? = some finding ∧ finding.component = component) ∨
        (∃ activity, line.activity? = some activity ∧ activity.component = component) ∨
        ∃ flow, line.flow? = some flow ∧ (component = flow.source ∨ component = flow.dest)) ↔
      ∃ name ∈ line.names, component = .ofReference name := by
  unfold mitigation? exposure? activity? flow? names
  obtain reads | ⟨item, reads⟩ | ⟨code, name, reads⟩ := entry?_of_undeclared undeclared
  · simp [reads]
  · cases item <;> simp [Entry.Item.references, reads, eq_comm]
  · simp [reads]

/-- A blank that is taken for the name of a function stands alone, since a shorter name would do
for more blanks. -/
theorem Entry.function_of_blank
    {line : String}
    {model function : String}
    (reads : ofLine? line = some (.declaration model function))
    (blank : ¬Inked function) :
    ∃ character, isBlank character = true ∧ function.toList = [character] := by
  rw [not_inked_iff] at blank
  obtain ⟨⟨text, comment, cut⟩, leastFields⟩ :
      Layout.FitsLeast (dropLineEnd line.toList) ⟨declarationShape, [model, function], none⟩ :=
    ofLine?_eq_some_iff.mp reads
  obtain ⟨_, rest, _, rfl, same, isModel, later⟩ := Cut.cons_iff.mp cut
  obtain ⟨rfl, rfl⟩ := List.cons.inj same
  obtain ⟨_, tail, rfl, same, isFunction, follows⟩ := Cut.nil_iff.mp later
  obtain ⟨rfl, _⟩ := List.cons.inj same
  obtain ⟨head, others, spelled⟩ := List.exists_cons_of_ne_nil isFunction.inhabited
  refine ⟨head, allBlank_iff.mp blank head (by simp [spelled]), ?_⟩
  cases others with
  | nil => exact spelled
  | cons next more =>
      rw [spelled] at isFunction blank comment
      have isHead : IsField [head] := by
        refine ⟨List.cons_ne_nil head [], fun member => isFunction.sameLine ?_⟩
        exact List.mem_cons.mpr (.inl (List.mem_singleton.mp member))
      have blankBehind : allBlank (next :: more ++ tail) = true := by
        cases follows with
        | bare blankTail => simp_all
      have shorter :
          Shape.Fits declarationShape (dropLineEnd line.toList) [model.toList, [head]] none :=
        ⟨_, comment, .next isModel (.last isHead (.bare blankBehind))⟩
      have smaller : Smaller [model.toList, [head]] [model.toList, function.toList] := by
        simp [smaller_cons_iff, spelled]
      exact absurd smaller (leastFields _ _ shorter)

/-! ## Declarations -/

/-- The components of all records of a declaration. -/
def Declaration.components (declaration : Declaration) : List Component :=
  declaration.stated ++ declaration.flows.flatMap fun flow => [flow.source, flow.dest]

structure Declaration.Named (declaration : Declaration) : Prop where
  function : Inked declaration.function
  components : ∀ component ∈ declaration.components, component.Named

theorem Declaration.named_iff {declaration : Declaration} :
    declaration.Named ↔
      Inked declaration.function ∧ ∀ component ∈ declaration.components, component.Named :=
  ⟨fun named => ⟨named.function, named.components⟩, fun ⟨function, components⟩ =>
    ⟨function, components⟩⟩

instance (declaration : Declaration) : Decidable declaration.Named :=
  decidable_of_iff _ Declaration.named_iff.symm

namespace Segment

variable (segment : Segment) (file : String)

/-- The components of a record are those that the lines below the declaration name. -/
theorem mem_components_record {component : Component} :
    component ∈ (segment.record file).components ↔
      ∃ line ∈ segment.body, ∃ name ∈ line.names, component = .ofReference name := by
  have onLine (line : SourceLine) (member : line ∈ segment.body) :=
    line.adds_iff_names (segment.unbroken line member) component
  rw [← exists_congr fun line => and_congr_right (onLine line)]
  simp only [Declaration.components, Declaration.stated, record, List.mem_append, List.mem_map,
    List.mem_flatMap, List.mem_filterMap, List.mem_cons, List.not_mem_nil, or_false]
  grind

/-- The record of a segment is named just when the names on its lines are written. -/
theorem named_record_iff :
    (segment.record file).Named ↔ ∀ line ∈ segment.lines, ∀ name ∈ line.names, Inked name := by
  have headNames : segment.head.names = [segment.function] := by
    rw [SourceLine.names, segment.opens]
  have bodyNames : (∀ component ∈ (segment.record file).components, component.Named) ↔
      ∀ line ∈ segment.body, ∀ name ∈ line.names, Inked name := by
    simp only [mem_components_record]
    constructor
    · intro named line isLine name isName
      exact Component.named_ofReference_iff.mp (named _ ⟨line, isLine, name, isName, rfl⟩)
    · rintro inked _ ⟨line, isLine, name, isName, rfl⟩
      exact Component.named_ofReference_iff.mpr (inked line isLine name isName)
  rw [Declaration.named_iff, bodyNames, lines, List.forall_mem_cons, headNames,
    List.forall_mem_singleton]
  rfl

end Segment

/-! ## Ledgers -/

namespace Ledger

/-- Texts give no nameless declaration and no nameless component just when every name that a line
under a declaration writes has more than blanks to it. A name of blanks is a single blank for a
function, and leaves a component without zone and name. -/
theorem readAll_named_iff (files : List (String × String)) :
    ((∀ declaration ∈ (readAll ∅ files).declarations, declaration.Named) ↔
      ∀ file ∈ files, ∀ segment ∈ (Segmentation.ofLines (SourceLine.ofText file.2)).segments,
        ∀ line ∈ segment.lines, ∀ name ∈ line.names, Inked name) ∧
    ∀ declaration ∈ (readAll ∅ files).declarations,
      (Inked declaration.function ∨
          ∃ blank, isBlank blank = true ∧ declaration.function.toList = [blank]) ∧
        ∀ component ∈ declaration.components, component.Named ∨ component = ⟨"", ""⟩ := by
  constructor
  · constructor
    · intro named file isFile segment isSegment
      exact (segment.named_record_iff file.1).mp
        (named _ (mem_declarations_readAll.mpr ⟨file, isFile, segment, isSegment, rfl⟩))
    · intro inked declaration member
      obtain ⟨file, isFile, segment, isSegment, rfl⟩ := mem_declarations_readAll.mp member
      exact (segment.named_record_iff file.1).mpr (inked file isFile segment isSegment)
  · intro declaration member
    obtain ⟨file, _, segment, _, rfl⟩ := mem_declarations_readAll.mp member
    constructor
    · by_cases inked : Inked segment.function
      · exact .inl inked
      · exact .inr (Entry.function_of_blank segment.opens inked)
    · intro component isComponent
      obtain ⟨_, _, name, _, rfl⟩ := (segment.mem_components_record file.1).mp isComponent
      by_cases inked : Inked name
      · exact .inl (Component.named_ofReference_iff.mpr inked)
      · exact .inr (Component.ofReference_of_blank inked)

/-- A text of which every name is left blank, but for the last. -/
def namelessText : String :=
  "// ThreatSpec m for  \n// Mitigates   against t with x\n// Exposes   to t with x\n" ++
    "// Does x for  \n// Sends x from   to B"

theorem namelessText_read_nameless :
    ∃ declaration ∈ (readAll ∅ [("a.go", namelessText)]).declarations,
      ¬declaration.Named ∧ declaration.function = " " ∧
        declaration.components = [⟨"", ""⟩, ⟨"", ""⟩, ⟨"", ""⟩, ⟨"", ""⟩, .ofReference "B"] := by
  decide +kernel

end Ledger

end ThreatModel
