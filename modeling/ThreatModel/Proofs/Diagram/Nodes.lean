import ThreatModel.Proofs.Analysis.Index
import ThreatModel.Proofs.Diagram.Actions
import ThreatModel.Proofs.Interaction.Edges
import ThreatModel.Proofs.Interaction.Tallies

/-!
Contract: the nodes of the diagram of declared functions.

Owns:
- the success of the building with the index of the same functions;
- which components become boxes and which ovals, and that no other is a node;
- the risk and the colour of each.

Does not own: the clusters that nodes belong to, or the edges between them.
-/

namespace ThreatModel

/-! ## The components that an interaction places -/

theorem Interaction.place_mem_steps
    {interaction : Interaction}
    {key : String} :
    .place key ∈ interaction.steps ↔
      key ∈ interaction.edges.keys ∨
        ∃ source dests, interaction.edges.get? source = some dests ∧ key ∈ dests.keys := by
  simp only [steps, List.mem_flatMap, List.mem_cons, DiagramStep.place.injEq, List.not_mem_nil,
    or_false, reduceCtorEq, OrderedMap.keys, List.mem_map, OrderedMap.get?_eq_some_iff]
  constructor
  · rintro ⟨entry, known, rfl | ⟨inner, innerKnown, rfl⟩⟩
    · exact .inl ⟨entry, known, rfl⟩
    · exact .inr ⟨entry.1, entry.2, known, inner, innerKnown, rfl⟩
  · rintro (⟨entry, known, rfl⟩ | ⟨source, dests, known, inner, innerKnown, rfl⟩)
    · exact ⟨entry, known, .inl rfl⟩
    · exact ⟨(source, dests), known, .inr ⟨inner, innerKnown, rfl⟩⟩

variable (functions : OrderedMap String Declaration) (graph : CallGraph)

/-- A run places the boxed components and no others. -/
theorem Interaction.place_mem_steps_ofCalls {key : String} :
    .place key ∈ (ofCalls functions graph).steps ↔ Boxed functions graph key := by
  rw [place_mem_steps, edges_eq_collected, boxed_iff_mem_links, OrderedMap.mem_keys_collected]
  simp only [OrderedMap.mem_keys_get?_collected]
  constructor
  · rintro (⟨dest, contribution, known⟩ | ⟨source, contribution, known⟩)
    · exact ⟨key, dest, contribution, known, .inl rfl⟩
    · exact ⟨source, key, contribution, known, .inr rfl⟩
  · rintro ⟨source, dest, contribution, known, rfl | rfl⟩
    · exact .inl ⟨dest, contribution, known⟩
    · exact .inr ⟨source, contribution, known⟩

/-- The index of the same functions knows every component that is placed. -/
theorem Interaction.mem_keys_of_place
    {key : String}
    (placed : .place key ∈ (ofCalls functions graph).steps) :
    key ∈ (ComponentIndex.ofFunctions functions).keys :=
  ComponentIndex.mem_keys_ofFunctions.mpr
    (touched_of_boxed functions graph ((place_mem_steps_ofCalls functions graph).mp placed))

namespace Diagram

/-! ## The diagram as a list of actions -/

/-- The actions for the interaction of declared functions. -/
def callActions : List Action :=
  (Interaction.ofCalls functions graph).steps.filterMap
    (stepAction? (.ofFunctions functions) (.ofCalls functions graph))

/-- The actions for the flows of declared functions. -/
def flowActions : List Action :=
  (functions.values.flatMap Declaration.flows).flatMap Flow.actions

/-- Every component that an interaction places is in the index of the same functions, so that
nothing fails. -/
theorem ofFunctions_eq_foldl_perform :
    ofFunctions functions graph (.ofFunctions functions) =
      .ok ((callActions functions graph ++ flowActions functions).foldl perform ∅) := by
  have known : ∀ key, .place key ∈ (Interaction.ofCalls functions graph).steps →
      key ∈ (ComponentIndex.ofFunctions functions).keys := fun _ placed =>
    Interaction.mem_keys_of_place functions graph placed
  rw [ofFunctions, addInteraction, run_eq_foldl_perform _ _ _ _ known, List.foldl_append]
  exact congrArg Except.ok (addFlows_eq_foldl_perform _ functions)

/-! ## Boxes and ovals -/

/-- The components at the ends of flows. -/
def flowEnds : List String :=
  (functions.values.flatMap Declaration.flows).flatMap fun flow =>
    [flow.source.key, flow.dest.key]

end Diagram

/-- What a reader sees of a node, apart from its label and its cluster. -/
structure Appearance where
  key : String
  shape : NodeShape
  risk : Option Risk
  color : Option String
deriving DecidableEq, Repr

def Node.appearance (node : Node) : Appearance :=
  ⟨node.key, node.shape, node.risk, node.color?⟩

namespace Appearance

/-- A box, by whether visited functions expose and mitigate its component. -/
def box (key : String) : (exposed mitigated : Bool) → Appearance
  | true, false => ⟨key, .box, some .exposed, some "red"⟩
  | true, true => ⟨key, .box, some .partiallyMitigated, some "orange"⟩
  | false, true => ⟨key, .box, some .mitigated, some "darkgreen"⟩
  | false, false => ⟨key, .box, some .neutral, none⟩

/-- An oval has neither risk nor colour. -/
def oval (key : String) : Appearance :=
  ⟨key, .oval, none, none⟩

end Appearance

namespace Diagram

/-- The box of a component under the declared functions and a call graph. -/
def boxOf (key : String) : Appearance :=
  .box key
    (Interaction.VisitStates functions graph Declaration.exposureKeys key)
    (Interaction.VisitStates functions graph Declaration.mitigationKeys key)

theorem appearance_of_risk
    (key label cluster : String) :
    Node.appearance
        ⟨key, label, cluster, .box, some ((Interaction.ofCalls functions graph).risk key)⟩ =
      boxOf functions graph key := by
  have exposed := Interaction.tally_pos_iff functions graph Interaction.exposureTally key
  have mitigated := Interaction.tally_pos_iff functions graph Interaction.mitigationTally key
  unfold Node.appearance Interaction.risk Risk.classify boxOf
  simp only [Interaction.exposureTally, Interaction.mitigationTally] at exposed mitigated
  simp only [exposed, mitigated]
  by_cases states : Interaction.VisitStates functions graph Declaration.exposureKeys key
  · by_cases countered : Interaction.VisitStates functions graph Declaration.mitigationKeys key
    · simp only [states, countered, if_true]
      rfl
    · simp only [states, countered, if_true, if_false]
      rfl
  · by_cases countered : Interaction.VisitStates functions graph Declaration.mitigationKeys key
    · simp only [states, countered, if_true, if_false]
      rfl
    · simp only [states, countered, if_false]
      rfl

theorem appearance_callActions (key : String) :
    (firstNode? (callActions functions graph) key).map Node.appearance =
      if Interaction.Boxed functions graph key then some (boxOf functions graph key)
      else none := by
  apply map_firstNode?
  · intro node member sameKey
    obtain ⟨action, known, placed⟩ := List.mem_filterMap.mp member
    obtain ⟨step, isStep, isAction⟩ := List.mem_filterMap.mp known
    cases step with
    | connect source dest contributions =>
        obtain rfl := Option.some.inj isAction
        exact absurd placed (by simp [Action.node?])
    | place stepKey =>
        obtain ⟨record, _, rfl⟩ := Option.map_eq_some_iff.mp isAction
        obtain rfl := Option.some.inj placed
        obtain rfl : stepKey = key := sameKey
        exact ⟨(Interaction.place_mem_steps_ofCalls functions graph).mp isStep,
          appearance_of_risk functions graph stepKey _ _⟩
  · intro boxed
    have touched := Interaction.touched_of_boxed functions graph boxed
    have indexed := ComponentIndex.mem_keys_ofFunctions.mpr touched
    obtain ⟨record, found⟩ := OrderedMap.mem_keys_iff.mp indexed
    have isStep := (Interaction.place_mem_steps_ofCalls functions graph).mpr boxed
    have isAction :
        stepAction? (.ofFunctions functions) (.ofCalls functions graph) (.place key) =
          some (.place key record.component .box
            (some ((Interaction.ofCalls functions graph).risk key))) := by
      rw [stepAction?, found, Option.map_some]
    have known := List.mem_filterMap.mpr ⟨_, isStep, isAction⟩
    exact ⟨_, List.mem_filterMap.mpr ⟨_, known, rfl⟩, rfl⟩

theorem appearance_flowActions (key : String) :
    (firstNode? (flowActions functions) key).map Node.appearance =
      if key ∈ flowEnds functions then some (.oval key) else none := by
  apply map_firstNode?
  · intro node member sameKey
    obtain ⟨action, known, placed⟩ := List.mem_filterMap.mp member
    obtain ⟨flow, stated, isAction⟩ := List.mem_flatMap.mp known
    simp only [Flow.actions, List.mem_cons, List.not_mem_nil, or_false] at isAction
    rcases isAction with rfl | rfl | rfl
    · obtain rfl := Option.some.inj placed
      obtain rfl : flow.source.key = key := sameKey
      exact ⟨List.mem_flatMap.mpr ⟨flow, stated, by simp⟩, rfl⟩
    · obtain rfl := Option.some.inj placed
      obtain rfl : flow.dest.key = key := sameKey
      exact ⟨List.mem_flatMap.mpr ⟨flow, stated, by simp⟩, rfl⟩
    · exact absurd placed (by simp [Action.node?])
  · intro isEnd
    obtain ⟨flow, stated, isOne⟩ := List.mem_flatMap.mp isEnd
    simp only [List.mem_cons, List.not_mem_nil, or_false] at isOne
    have acts : ∀ action ∈ flow.actions, action ∈ flowActions functions := fun action isAction =>
      List.mem_flatMap.mpr ⟨flow, stated, isAction⟩
    rcases isOne with rfl | rfl
    · exact ⟨_, List.mem_filterMap.mpr ⟨_, acts _ List.mem_cons_self, rfl⟩, rfl⟩
    · exact ⟨_, List.mem_filterMap.mpr
        ⟨_, acts _ (List.mem_cons_of_mem _ List.mem_cons_self), rfl⟩, rfl⟩

/-- The building succeeds, and the nodes of the diagram are the boxed components, as boxes with
the risk that the visited functions leave them, and the other ends of flows, as ovals. -/
theorem appearance_ofFunctions :
    ∃ diagram,
      ofFunctions functions graph (.ofFunctions functions) = .ok diagram ∧
        ∀ key,
          (diagram.nodes.get? key).map Node.appearance =
            if Interaction.Boxed functions graph key then some (boxOf functions graph key)
            else if key ∈ flowEnds functions then some (.oval key)
            else none := by
  refine ⟨_, ofFunctions_eq_foldl_perform functions graph, fun key => ?_⟩
  rw [get?_nodes_foldl_perform, firstNode?_append, Option.map_or, Option.map_or,
    appearance_callActions, appearance_flowActions]
  by_cases boxed : Interaction.Boxed functions graph key
  · rw [if_pos boxed, if_pos boxed]
    rfl
  · rw [if_neg boxed, if_neg boxed]
    rfl

end Diagram

end ThreatModel
