import ThreatModel.Analysis.Basic
import ThreatModel.Proofs.Analysis.Findings
import ThreatModel.Proofs.Ledger.Shown

/-!
Contract: what reports show of an analysis has no newline in it.

Owns:
- occurrences, threats and components of which a report shows nothing but single
  lines;
- that an index has such components, where its functions are such;
- that the models, and the components, of texts that were read are such.

Does not own: the lines of a report.
-/

namespace ThreatModel

structure Occurrence.OneLine (occurrence : Occurrence) : Prop where
  text : ThreatModel.OneLine occurrence.text
  ref : ∀ ref ∈ occurrence.ref, ThreatModel.OneLine ref
  function : ThreatModel.OneLine occurrence.function
  file : ∀ file ∈ occurrence.file, ThreatModel.OneLine file

structure ThreatRecord.OneLine (threat : ThreatRecord) : Prop where
  name : ThreatModel.OneLine threat.name
  listed : ∀ kind : FindingKind, ∀ occurrence ∈ kind.listed threat, occurrence.OneLine

/-- The actions are left out, which need not be shown line by line. -/
structure ComponentRecord.OneLine (record : ComponentRecord) : Prop where
  component : record.component.OneLine
  threats : ∀ threat ∈ record.threats.values, threat.OneLine

/-- Whatever a report can show of the functions is on one line. -/
def ShownFunctions (functions : OrderedMap String Declaration) : Prop :=
  ∀ name declaration, functions.get? name = some declaration →
    OneLine name ∧ declaration.Shown

namespace Declaration.Shown

variable {declaration : Declaration} (shown : declaration.Shown)

include shown

theorem stated
    {kind : FindingKind}
    {finding : Finding}
    (states : finding ∈ kind.stated declaration) :
    finding.OneLine := by
  cases kind with
  | mitigation => exact shown.mitigations finding states
  | exposure => exact shown.exposures finding states

theorem occurrence
    {finding : Finding}
    (oneLine : finding.OneLine)
    {name : String}
    (named : ThreatModel.OneLine name) :
    (finding.occurrence name declaration.definition).OneLine := by
  refine ⟨oneLine.text, oneLine.ref, named, fun file isFile => ?_⟩
  obtain ⟨definition, isDefinition, rfl⟩ := Option.map_eq_some_iff.mp isFile
  exact shown.definition definition isDefinition

end Declaration.Shown

namespace ComponentIndex

variable {functions : OrderedMap String Declaration} (shown : ShownFunctions functions)

include shown

theorem oneLine_of_mem_statedComponents :
    ∀ component ∈ statedComponents functions, component.OneLine := by
  intro component states
  obtain ⟨⟨name, declaration⟩, isFunction, isComponent⟩ := List.mem_flatMap.mp states
  obtain ⟨_, declared⟩ := shown name declaration (OrderedMap.get?_eq_some_iff.mpr isFunction)
  rcases List.mem_append.mp isComponent with ofFinding | ofActivity
  · rcases List.mem_append.mp ofFinding with mitigates | exposes
    · obtain ⟨finding, member, rfl⟩ := List.mem_map.mp mitigates
      exact (declared.mitigations finding member).component
    · obtain ⟨finding, member, rfl⟩ := List.mem_map.mp exposes
      exact (declared.exposures finding member).component
  · obtain ⟨activity, member, rfl⟩ := List.mem_map.mp ofActivity
    exact declared.activities activity member

theorem oneLine_of_mem_statedThreats (key : String) :
    ∀ threat ∈ statedThreats functions key, OneLine threat := by
  intro threat states
  obtain ⟨⟨name, declaration⟩, isFunction, isThreat⟩ := List.mem_flatMap.mp states
  obtain ⟨_, declared⟩ := shown name declaration (OrderedMap.get?_eq_some_iff.mpr isFunction)
  obtain ⟨finding, member, rfl⟩ := List.mem_map.mp isThreat
  rcases List.mem_append.mp (List.mem_filter.mp member).1 with mitigates | exposes
  · exact (declared.mitigations finding mitigates).threat
  · exact (declared.exposures finding exposes).threat

theorem oneLine_of_mem_statedFindings (kind : FindingKind) :
    ∀ stated ∈ statedFindings functions kind, stated.2.OneLine := by
  intro stated states
  obtain ⟨⟨name, declaration⟩, isFunction, isFinding⟩ := List.mem_flatMap.mp states
  obtain ⟨named, declared⟩ := shown name declaration (OrderedMap.get?_eq_some_iff.mpr isFunction)
  obtain ⟨finding, member, rfl⟩ := List.mem_map.mp isFinding
  exact declared.occurrence (declared.stated member) named

theorem oneLine_of_mem_values : ∀ record ∈ (ofFunctions functions).values, record.OneLine := by
  intro record member
  obtain ⟨⟨key, _⟩, isEntry, rfl⟩ := List.mem_map.mp member
  have gathers := gathers_of_get? functions (OrderedMap.get?_eq_some_iff.mpr isEntry)
  constructor
  · exact oneLine_of_mem_statedComponents shown _ (List.mem_of_find?_eq_some gathers.component_eq)
  · intro threat isThreat
    obtain ⟨⟨_, _⟩, listed, rfl⟩ := List.mem_map.mp isThreat
    rw [gathers.threats_eq] at listed
    obtain ⟨name, isName, same⟩ := List.mem_map.mp listed
    obtain ⟨rfl, rfl⟩ := Prod.mk.inj same
    refine ⟨oneLine_of_mem_statedThreats shown key name (List.mem_eraseDups.mp isName), ?_⟩
    intro kind occurrence isListed
    have stated : occurrence ∈ statedOccurrences functions kind.stated key name := by
      rwa [← listed_threatRecordOf]
    rw [statedOccurrences_eq] at stated
    obtain ⟨finding, isFinding, rfl⟩ := List.mem_map.mp stated
    have isStated := (List.mem_filter.mp (List.mem_filter.mp isFinding).1).1
    exact oneLine_of_mem_statedFindings shown kind finding isStated

end ComponentIndex

namespace Ledger

variable {files : List (String × String)} (named : ∀ file ∈ files, OneLine file.1)

include named

theorem shownFunctions_readAll : ShownFunctions (readAll ∅ files).functions :=
  fun _ _ found => shown_of_get?_functions named found

theorem oneLine_of_mem_components :
    ∀ record ∈ (readAll ∅ files).analyze.components.values, record.OneLine :=
  ComponentIndex.oneLine_of_mem_values (shownFunctions_readAll named)

theorem oneLine_of_mem_models : ∀ model ∈ (readAll ∅ files).analyze.models, OneLine model := by
  intro model member
  obtain ⟨declaration, declared, rfl⟩ := List.mem_map.mp (List.mem_eraseDups.mp member)
  exact (shown_of_mem_declarations named declaration declared).model

end Ledger

end ThreatModel
