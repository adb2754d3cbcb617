import ThreatModel.Proofs.Diagram.Edges

/-!
Contract: the diagram of declared functions, as what the calls between them make of it.

Owns:
- the diagram itself, since its building never fails;
- the nodes by what they show, and which of them are boxes, alarm or are countered;
- the edge of the calls between two components, and that the edges of calls are just
  these.

Does not own: how two diagrams compare.
-/

namespace ThreatModel

/-! ## Alarming and countered grades -/

/-- Exposures make a grade alarming; mitigations do not calm it. -/
def Risk.Alarming (risk? : Option Risk) : Prop :=
  risk? = some .exposed ∨ risk? = some .partiallyMitigated

instance (risk? : Option Risk) : Decidable (Risk.Alarming risk?) :=
  inferInstanceAs (Decidable (_ ∨ _))

/-- Mitigations make a grade countered, whether or not exposures are left. -/
def Risk.Countered (risk? : Option Risk) : Prop :=
  risk? = some .mitigated ∨ risk? = some .partiallyMitigated

instance (risk? : Option Risk) : Decidable (Risk.Countered risk?) :=
  inferInstanceAs (Decidable (_ ∨ _))

/-- The colours of alarming grades, on nodes as on labels. -/
def Risk.warmColors : List String :=
  ["red", "orange"]

theorem Risk.alarming_iff_nodeColor?
    {risk? : Option Risk} :
    Alarming risk? ↔ ∃ color ∈ warmColors, risk?.bind nodeColor? = some color := by
  cases risk? with
  | none => simp [Alarming]
  | some risk => cases risk <;> decide

theorem Risk.alarming_iff_labelColor
    {risk : Risk} :
    Alarming (some risk) ↔ risk.labelColor ∈ warmColors := by
  cases risk <;> decide

theorem Declaration.alarming_ownRisk
    {declaration : Declaration}
    (alarming : Risk.Alarming (some declaration.ownRisk)) :
    declaration.exposures ≠ [] := by
  rcases alarming with exposed | partially
  · exact (declaration.ownRisk_eq_iff.1.mp (Option.some.inj exposed)).1
  · exact (declaration.ownRisk_eq_iff.2.1.mp (Option.some.inj partially)).1

namespace Diagram

/-- One called function with exposures is enough for the gravest grade to alarm. -/
theorem alarming_gravest_iff {callees : List Declaration} :
    Risk.Alarming (some (gravest callees)) ↔ ∃ callee ∈ callees, callee.exposures ≠ [] := by
  constructor
  · intro alarming
    have inhabited : callees ≠ [] := by
      rintro rfl
      revert alarming
      decide
    obtain ⟨callee, member, isGravest⟩ := exists_gravest inhabited
    rw [← isGravest] at alarming
    exact ⟨callee, member, callee.alarming_ownRisk alarming⟩
  · rintro ⟨callee, member, exposes⟩
    unfold gravest
    by_cases exposed : ∃ callee ∈ callees, callee.exposures ≠ [] ∧ callee.mitigations = []
    · rw [if_pos exposed]
      exact .inl rfl
    · have countered : callee.mitigations ≠ [] := fun nothing =>
        exposed ⟨callee, member, exposes, nothing⟩
      rw [if_neg exposed, if_pos ⟨callee, member, exposes, countered⟩]
      exact .inr rfl

variable (functions : OrderedMap String Declaration) (graph : CallGraph)

/-! ## The diagram -/

/-- The diagram of declared functions along a call graph. -/
def drawn : Diagram :=
  (callActions functions graph ++ flowActions functions).foldl perform ∅

theorem ofFunctions_eq_drawn :
    ofFunctions functions graph (.ofFunctions functions) = .ok (drawn functions graph) :=
  ofFunctions_eq_foldl_perform functions graph

/-! ## Nodes -/

theorem map_appearance_drawn (key : String) :
    ((drawn functions graph).nodes.get? key).map Node.appearance =
      if Interaction.Boxed functions graph key then some (boxOf functions graph key)
      else if key ∈ flowEnds functions then some (.oval key)
      else none := by
  rw [drawn, get?_nodes_foldl_perform, firstNode?_append, Option.map_or, Option.map_or,
    appearance_callActions, appearance_flowActions]
  by_cases boxed : Interaction.Boxed functions graph key
  · rw [if_pos boxed, if_pos boxed]
    rfl
  · rw [if_neg boxed, if_neg boxed]
    rfl

variable {functions graph}

/-- What a node shows is decided by whether calls make a box of its component. -/
theorem exists_node_iff
    (states : Appearance → Prop)
    {key : String} :
    (∃ node, (drawn functions graph).nodes.get? key = some node ∧ states node.appearance) ↔
      (Interaction.Boxed functions graph key ∧ states (boxOf functions graph key)) ∨
        (¬Interaction.Boxed functions graph key ∧
          key ∈ flowEnds functions ∧ states (.oval key)) := by
  have shown : (∃ node, (drawn functions graph).nodes.get? key = some node ∧
        states node.appearance) ↔
      ∃ appearance,
        ((drawn functions graph).nodes.get? key).map Node.appearance = some appearance ∧
          states appearance := by
    simp [Option.map_eq_some_iff]
  rw [shown, map_appearance_drawn]
  by_cases boxed : Interaction.Boxed functions graph key
  · simp [boxed]
  · by_cases isEnd : key ∈ flowEnds functions
    · simp [boxed, isEnd]
    · simp [boxed, isEnd]

theorem shape_boxOf (key : String) : (boxOf functions graph key).shape = .box := by
  unfold boxOf Appearance.box
  split <;> rfl

theorem boxed_iff {key : String} :
    (∃ node, (drawn functions graph).nodes.get? key = some node ∧ node.shape = .box) ↔
      Interaction.Boxed functions graph key := by
  have isOval : ¬(Appearance.oval key).shape = .box := by simp [Appearance.oval]
  refine (exists_node_iff fun appearance => appearance.shape = .box).trans ?_
  simp [shape_boxOf, isOval]

/-- A node has a grade of some kind if it is a box and its component deserves that. -/
theorem exists_risk_iff
    {states : Option Risk → Prop}
    {deserved : Prop}
    {key : String}
    (ofBox : states (boxOf functions graph key).risk ↔ deserved)
    (ofOval : ¬states none) :
    (∃ node, (drawn functions graph).nodes.get? key = some node ∧ states node.risk) ↔
      Interaction.Boxed functions graph key ∧ deserved := by
  have noOval : ¬states (Appearance.oval key).risk := ofOval
  refine (exists_node_iff fun appearance => states appearance.risk).trans ?_
  simp only [ofBox, noOval, and_false, or_false]

/-- The nodes that alarm are the boxes whose component some visited function exposes. -/
theorem alarming_iff {key : String} :
    (∃ node, (drawn functions graph).nodes.get? key = some node ∧ Risk.Alarming node.risk) ↔
      Interaction.Boxed functions graph key ∧
        Interaction.VisitStates functions graph Declaration.exposureKeys key := by
  have ofBox (exposed mitigated : Bool) :
      Risk.Alarming (Appearance.box key exposed mitigated).risk ↔ exposed = true := by
    cases exposed <;> cases mitigated <;> simp [Appearance.box, Risk.Alarming]
  exact exists_risk_iff ((ofBox _ _).trans decide_eq_true_iff) (by simp [Risk.Alarming])

/-- The nodes that are countered are the boxes whose component some visited function mitigates. -/
theorem countered_iff {key : String} :
    (∃ node, (drawn functions graph).nodes.get? key = some node ∧ Risk.Countered node.risk) ↔
      Interaction.Boxed functions graph key ∧
        Interaction.VisitStates functions graph Declaration.mitigationKeys key := by
  have ofBox (exposed mitigated : Bool) :
      Risk.Countered (Appearance.box key exposed mitigated).risk ↔ mitigated = true := by
    cases exposed <;> cases mitigated <;> simp [Appearance.box, Risk.Countered]
  exact exists_risk_iff ((ofBox _ _).trans decide_eq_true_iff) (by simp [Risk.Countered])

/-! ## Edges of calls -/

variable (functions graph)

/-- The edge of the calls that join two components. -/
def callEdge (ends : String × String) : DiagramEdge where
  source := ends.1
  dest := ends.2
  kind := .call (gravest ((Interaction.joinedCallees functions graph ends).map Prod.snd))
  labels := ((Interaction.joinedCallees functions graph ends).map labelOf).eraseDups
  color := (gravest ((Interaction.joinedCallees functions graph ends).map Prod.snd)).labelColor

theorem edges_drawn :
    (drawn functions graph).edges =
      (Interaction.ofCalls functions graph).linkedPairs.map (callEdge functions graph) ++
        (functions.values.flatMap Declaration.flows).map Flow.edge := by
  rw [drawn, edges_foldl_perform, List.filterMap_append, filterMap_edge?_callActions,
    filterMap_edge?_flowActions, ← Interaction.map_fst_linked, List.map_map]
  have shown : (Interaction.ofCalls functions graph).linked.map
        (fun link => Contribution.edge link.1.1 link.1.2 link.2) =
      (Interaction.ofCalls functions graph).linked.map (callEdge functions graph ∘ Prod.fst) := by
    apply List.map_congr_left
    intro link member
    obtain ⟨_, same⟩ := Interaction.mem_linked_ofCalls functions graph member
    rw [same, edge_of_callees]
    rfl
  rw [shown]
  rfl

/-- The pairs that are linked are those that some call joins. -/
theorem mem_linkedPairs_iff {ends : String × String} :
    ends ∈ (Interaction.ofCalls functions graph).linkedPairs ↔
      Interaction.joinedCallees functions graph ends ≠ [] := by
  have known : ends ∈ (Interaction.ofCalls functions graph).linkedPairs ↔
      ∃ dests, (Interaction.ofCalls functions graph).edges.get? ends.1 = some dests ∧
        ends.2 ∈ dests.keys := by
    simp only [Interaction.linkedPairs, List.mem_flatMap, List.mem_map,
      OrderedMap.get?_eq_some_iff]
    constructor
    · rintro ⟨entry, isEntry, dest, isDest, rfl⟩
      exact ⟨entry.2, isEntry, isDest⟩
    · rintro ⟨dests, isEntry, isDest⟩
      exact ⟨(ends.1, dests), isEntry, ends.2, isDest, rfl⟩
  have joined : Interaction.joinedCallees functions graph ends ≠ [] ↔
      ∃ call ∈ Interaction.calls functions graph, call.Joins ends.1 ends.2 := by
    simp [Interaction.joinedCallees]
  rw [known, joined, Interaction.edges_eq_collected, OrderedMap.mem_keys_get?_collected]
  simp only [Interaction.mem_links_ofCalls]
  constructor
  · rintro ⟨_, call, isCall, joins, _⟩
    exact ⟨call, isCall, joins⟩
  · rintro ⟨call, isCall, joins⟩
    exact ⟨_, call, isCall, joins, rfl⟩

/-- An edge of a call is the edge of all calls that join its ends. -/
theorem mem_edges_drawn_iff
    {edge : DiagramEdge}
    (isCall : edge.kind.risk?.isSome) :
    edge ∈ (drawn functions graph).edges ↔
      Interaction.joinedCallees functions graph (edge.source, edge.dest) ≠ [] ∧
        edge = callEdge functions graph (edge.source, edge.dest) := by
  rw [edges_drawn, List.mem_append, ← mem_linkedPairs_iff]
  constructor
  · rintro (ofCall | ofFlow)
    · obtain ⟨ends, linked, rfl⟩ := List.mem_map.mp ofCall
      exact ⟨linked, rfl⟩
    · obtain ⟨flow, _, rfl⟩ := List.mem_map.mp ofFlow
      cases isCall
  · rintro ⟨linked, same⟩
    exact .inl (List.mem_map.mpr ⟨_, linked, same.symm⟩)

end Diagram

end ThreatModel
