import ThreatModel.Proofs.Analysis.Grouping
import ThreatModel.Proofs.Diagram.Drawn

/-!
Contract: the index of components bears out what the diagram says about risk.

Owns:
- the occurrences in the record of a component, and the findings that they come from;
- that risk on a node is recorded, and that a called function whose label alarms shows on
  every component that it exposes.

Does not own: the components that are recorded but not drawn.
-/

namespace ThreatModel

/-! ## Occurrences in a record -/

namespace ComponentRecord

variable (record : ComponentRecord)

def mitigationOccurrences : List Occurrence :=
  record.threats.values.flatMap ThreatRecord.mitigations

def exposureOccurrences : List Occurrence :=
  record.threats.values.flatMap ThreatRecord.exposures

end ComponentRecord

theorem Declaration.key_mem_touched
    {declaration : Declaration}
    {finding : Finding}
    (states : finding ∈ declaration.mitigations ++ declaration.exposures) :
    finding.component.key ∈ declaration.touched := by
  rw [touched, List.mem_eraseDups, mitigationKeys, exposureKeys, ← List.map_append]
  exact List.mem_append_left _ (List.mem_map_of_mem states)

namespace ComponentIndex

variable
  {functions : OrderedMap String Declaration}
  {function : String × Declaration}
  {finding : Finding}

theorem statedOccurrences_ne_nil
    {findings : Declaration → List Finding}
    (declared : function ∈ functions.entries)
    (states : finding ∈ findings function.2) :
    statedOccurrences functions findings finding.component.key finding.threat ≠ [] := by
  have about : finding ∈ (findings function.2).filter fun other =>
      other.component.key = finding.component.key ∧ other.threat = finding.threat := by
    simpa using states
  exact List.ne_nil_of_mem
    (List.mem_flatMap.mpr ⟨function, declared, List.mem_map_of_mem about⟩)

/-- The record of a component has the threat that a finding names, with all occurrences of it. -/
theorem exists_threatRecordOf
    (declared : function ∈ functions.entries)
    (states : finding ∈ function.2.mitigations ++ function.2.exposures) :
    ∃ record,
      (ofFunctions functions).get? finding.component.key = some record ∧
        threatRecordOf functions finding.component.key finding.threat ∈ record.threats.values := by
  have touches := Declaration.key_mem_touched states
  have indexed := mem_keys_ofFunctions.mpr ⟨function, declared, touches⟩
  obtain ⟨record, found⟩ := OrderedMap.mem_keys_iff.mp indexed
  have about : finding ∈ (function.2.mitigations ++ function.2.exposures).filter
      (·.component.key = finding.component.key) := by
    simpa using states
  have stated : finding.threat ∈ statedThreats functions finding.component.key :=
    List.mem_flatMap.mpr ⟨function, declared, List.mem_map_of_mem about⟩
  refine ⟨record, found, ?_⟩
  rw [OrderedMap.values, (gathers_of_get? functions found).threats_eq, List.map_map]
  exact List.mem_map.mpr ⟨finding.threat, List.mem_eraseDups.mpr stated, rfl⟩

theorem exists_exposureOccurrences
    (declared : function ∈ functions.entries)
    (exposes : finding ∈ function.2.exposures) :
    ∃ record,
      (ofFunctions functions).get? finding.component.key = some record ∧
        record.exposureOccurrences ≠ [] := by
  obtain ⟨record, found, known⟩ :=
    exists_threatRecordOf declared (List.mem_append_right _ exposes)
  obtain ⟨occurrence, occurs⟩ :=
    List.exists_mem_of_ne_nil _ (statedOccurrences_ne_nil declared exposes)
  exact ⟨record, found, List.ne_nil_of_mem (List.mem_flatMap.mpr ⟨_, known, occurs⟩)⟩

theorem exists_mitigationOccurrences
    (declared : function ∈ functions.entries)
    (mitigates : finding ∈ function.2.mitigations) :
    ∃ record,
      (ofFunctions functions).get? finding.component.key = some record ∧
        record.mitigationOccurrences ≠ [] := by
  obtain ⟨record, found, known⟩ :=
    exists_threatRecordOf declared (List.mem_append_left _ mitigates)
  obtain ⟨occurrence, occurs⟩ :=
    List.exists_mem_of_ne_nil _ (statedOccurrences_ne_nil declared mitigates)
  exact ⟨record, found, List.ne_nil_of_mem (List.mem_flatMap.mpr ⟨_, known, occurs⟩)⟩

end ComponentIndex

namespace Diagram

/-- Risk on a node has an occurrence in the record of its component. Where the label of a called
function alarms, every component that the function exposes is a box that alarms, and the calls from
the same source to it have the label too. -/
structure Agrees
    (functions : OrderedMap String Declaration)
    (index : ComponentIndex)
    (diagram : Diagram) :
    Prop where
  exposed : ∀ key node, diagram.nodes.get? key = some node → Risk.Alarming node.risk →
    ∃ record, index.get? key = some record ∧ record.exposureOccurrences ≠ []
  mitigated : ∀ key node, diagram.nodes.get? key = some node → Risk.Countered node.risk →
    ∃ record, index.get? key = some record ∧ record.mitigationOccurrences ≠ []
  calls : ∀ edge ∈ diagram.edges, edge.kind.risk?.isSome →
    ∀ label ∈ edge.labels, label.color ∈ Risk.warmColors →
      ∃ callee, functions.get? label.text = some callee ∧ callee.exposures ≠ [] ∧
        ∀ finding ∈ callee.exposures,
          (∃ node, diagram.nodes.get? finding.component.key = some node ∧
            node.shape = .box ∧ Risk.Alarming node.risk) ∧
          ∃ other ∈ diagram.edges, other.kind.risk?.isSome ∧
            other.source = edge.source ∧ other.dest = finding.component.key ∧
            label ∈ other.labels

variable {functions : OrderedMap String Declaration} {graph : CallGraph}

/-! ## Called functions that alarm -/

section Callee

variable {callee : String × Declaration} {finding : Finding} {ends : String × String}

variable (joined : callee ∈ Interaction.joinedCallees functions graph ends)

include joined

/-- A function that is called from a component is called from it to all that it touches. -/
theorem mem_joinedCallees_of_touched
    {key : String}
    (touches : key ∈ callee.2.touched) :
    callee ∈ Interaction.joinedCallees functions graph (ends.1, key) := by
  obtain ⟨call, known, rfl⟩ := List.mem_map.mp joined
  obtain ⟨isCall, joins⟩ := List.mem_filter.mp known
  have joinsKey : call.Joins ends.1 key := ⟨(of_decide_eq_true joins).1, touches⟩
  exact List.mem_map_of_mem (List.mem_filter.mpr ⟨isCall, decide_eq_true joinsKey⟩)

variable (exposes : finding ∈ callee.2.exposures)

include exposes

/-- What a called function exposes is a box that alarms. -/
theorem exists_alarming_box :
    ∃ node, (drawn functions graph).nodes.get? finding.component.key = some node ∧
      node.shape = .box ∧ Risk.Alarming node.risk := by
  obtain ⟨call, known, rfl⟩ := List.mem_map.mp joined
  obtain ⟨isCall, joins⟩ := List.mem_filter.mp known
  have touchesSource := (of_decide_eq_true joins).1
  obtain ⟨callerDeclared, calleeDeclared, calls⟩ :=
    (Interaction.mem_calls functions graph).mp isCall
  have states : finding.component.key ∈ call.callee.2.exposureKeys := List.mem_map_of_mem exposes
  have touches := Declaration.key_mem_touched (List.mem_append_right _ exposes)
  have boxed : Interaction.Boxed functions graph finding.component.key :=
    ⟨call, isCall, .inr ⟨touches, List.ne_nil_of_mem touchesSource⟩⟩
  have visited : Interaction.Visited functions graph call.callee.1 :=
    .inr ⟨call.caller.1, List.mem_map_of_mem callerDeclared, calls⟩
  obtain ⟨node, found, isBox⟩ := boxed_iff.mpr boxed
  obtain ⟨other, otherFound, alarms⟩ :=
    alarming_iff.mpr ⟨boxed, call.callee, calleeDeclared, visited, states⟩
  obtain rfl := Option.some.inj (found.symm.trans otherFound)
  exact ⟨node, found, isBox, alarms⟩

theorem exists_call_edge :
    ∃ edge ∈ (drawn functions graph).edges, edge.kind.risk?.isSome ∧
      edge.source = ends.1 ∧ edge.dest = finding.component.key ∧ labelOf callee ∈ edge.labels := by
  have touches := Declaration.key_mem_touched (List.mem_append_right _ exposes)
  have alsoJoined := mem_joinedCallees_of_touched joined touches
  refine ⟨callEdge functions graph (ends.1, finding.component.key), ?_, rfl, rfl, rfl, ?_⟩
  · exact (mem_edges_drawn_iff functions graph rfl).mpr ⟨List.ne_nil_of_mem alsoJoined, rfl⟩
  · exact List.mem_eraseDups.mpr (List.mem_map_of_mem alsoJoined)

end Callee

/-! ## Agreement -/

variable (functions graph)

/-- Diagram, call edges and index are computed from the same records, and none of them contradicts
another, whatever calls what. -/
theorem ofFunctions_agrees :
    ∃ diagram,
      ofFunctions functions graph (.ofFunctions functions) = .ok diagram ∧
        diagram.Agrees functions (.ofFunctions functions) := by
  refine ⟨_, ofFunctions_eq_drawn functions graph, ?_, ?_, ?_⟩
  · intro key node found alarms
    obtain ⟨_, function, declared, _, states⟩ := alarming_iff.mp ⟨node, found, alarms⟩
    obtain ⟨finding, exposes, rfl⟩ := List.mem_map.mp states
    exact ComponentIndex.exists_exposureOccurrences declared exposes
  · intro key node found countered
    obtain ⟨_, function, declared, _, states⟩ := countered_iff.mp ⟨node, found, countered⟩
    obtain ⟨finding, mitigates, rfl⟩ := List.mem_map.mp states
    exact ComponentIndex.exists_mitigationOccurrences declared mitigates
  · intro edge member isCall label isLabel warm
    obtain ⟨_, isEdge⟩ := (mem_edges_drawn_iff functions graph isCall).mp member
    rw [isEdge] at isLabel
    obtain ⟨callee, joined, rfl⟩ := List.mem_map.mp (List.mem_eraseDups.mp isLabel)
    have alarms := Risk.alarming_iff_labelColor.mpr warm
    refine ⟨callee.2, get?_of_mem_joinedCallees joined, callee.2.alarming_ownRisk alarms, ?_⟩
    intro finding exposes
    exact ⟨exists_alarming_box joined exposes, exists_call_edge joined exposes⟩

/-- A service calls a store, which exposes its rows and its logs and guards the rows. -/
def storeFunctions : OrderedMap String Declaration :=
  .ofList
    [("serve",
        { model := "web", function := "serve", raw := ""
          activities := [⟨"requests", ⟨"Web", "API"⟩, none, ""⟩] }),
      ("store",
        { model := "web", function := "store", raw := ""
          mitigations := [⟨⟨"Data", "Rows"⟩, "leaks", "encryption", none, ""⟩]
          exposures :=
            [⟨⟨"Data", "Rows"⟩, "loss", "no copies", none, ""⟩,
              ⟨⟨"data", "logs"⟩, "leaks", "plain text", none, ""⟩] })]

def storeCalls : CallGraph :=
  .ofList [("serve", .ofList [("store", [⟨3, 1⟩])])]

/-- The label of the store stands on the calls to the rows, and so it does on those to the logs. -/
theorem storeFunctions_agree :
    ∃ diagram,
      ofFunctions storeFunctions storeCalls (.ofFunctions storeFunctions) = .ok diagram ∧
        (∃ node, diagram.nodes.get? "data-rows" = some node ∧
          Risk.Alarming node.risk ∧ Risk.Countered node.risk ∧
            ∃ record, (ComponentIndex.ofFunctions storeFunctions).get? "data-rows" = some record ∧
              record.exposureOccurrences ≠ []) ∧
        ∃ edge ∈ diagram.edges, edge.kind.risk?.isSome ∧ edge.dest = "data-rows" ∧
          ⟨"store", "orange"⟩ ∈ edge.labels ∧
            ∃ other ∈ diagram.edges, other.source = edge.source ∧ other.dest = "data-logs" ∧
              ⟨"store", "orange"⟩ ∈ other.labels := by
  obtain ⟨diagram, built, agrees⟩ := ofFunctions_agrees storeFunctions storeCalls
  have isDrawn : drawn storeFunctions storeCalls = diagram :=
    Except.ok.inj ((ofFunctions_eq_drawn storeFunctions storeCalls).symm.trans built)
  subst isDrawn
  let rows : Node := ⟨"data-rows", "Rows", "data", .box, some .partiallyMitigated⟩
  let call : DiagramEdge :=
    ⟨"web-api", "data-rows", .call .partiallyMitigated, [⟨"store", "orange"⟩], "orange"⟩
  let logs : Finding := ⟨⟨"data", "logs"⟩, "leaks", "plain text", none, ""⟩
  have found : (drawn storeFunctions storeCalls).nodes.get? "data-rows" = some rows := by
    decide +kernel
  have alarms : Risk.Alarming rows.risk := by decide
  have member : call ∈ (drawn storeFunctions storeCalls).edges := by decide +kernel
  have isLabel : ⟨"store", "orange"⟩ ∈ call.labels := by decide
  obtain ⟨callee, isCallee, _, exposed⟩ := agrees.calls call member rfl _ isLabel (by decide)
  have isStore : (storeFunctions.get? "store").map Declaration.exposures =
      some [⟨⟨"Data", "Rows"⟩, "loss", "no copies", none, ""⟩, logs] := by
    decide +kernel
  rw [isCallee, Option.map_some, Option.some.injEq] at isStore
  have exposesLogs : logs ∈ callee.exposures := by
    rw [isStore]
    decide
  have logsKey : logs.component.key = "data-logs" := by decide +kernel
  obtain ⟨_, other, otherMember, _, sameSource, otherDest, otherLabel⟩ := exposed logs exposesLogs
  exact ⟨_, built, ⟨rows, found, alarms, by decide, agrees.exposed _ rows found alarms⟩,
    call, member, rfl, rfl, isLabel, other, otherMember, sameSource, otherDest.trans logsKey,
    otherLabel⟩

end Diagram

end ThreatModel
