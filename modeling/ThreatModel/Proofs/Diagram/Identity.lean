import ThreatModel.Proofs.Analysis.Grouping
import ThreatModel.Proofs.Diagram.Nodes

/-!
Contract: components keep their identity from the records of functions to the diagram.

Owns:
- what the addition of a node does to the nodes and to the clusters;
- the relation of the key of a node to its own label and to that of its cluster,
  which holds whichever spelling of a component or of a zone came first;
- the agreement of interaction and index on the components that they know.

Does not own: shapes and risks of nodes, or the edges between them.
-/

namespace ThreatModel.Diagram

/-! ## The addition of a node -/

section AddNode

variable
  {diagram : Diagram}
  {key : String}
  (component : Component)
  (shape : NodeShape)
  (risk : Option Risk)

theorem addNode_of_known (known : diagram.nodes.contains key = true) :
    diagram.addNode key component shape risk = diagram := by
  rw [addNode, if_pos known]

variable (unknown : ¬diagram.nodes.contains key = true)

include unknown

theorem get?_nodes_addNode (other : String) :
    (diagram.addNode key component shape risk).nodes.get? other =
      if other = key then
        some ⟨key, component.name, Component.normalize component.zone, shape, risk⟩
      else diagram.nodes.get? other := by
  rw [addNode, if_neg unknown]
  exact diagram.nodes.get?_insert key other _

/-- The cluster of the zone has the node, and it keeps the label that it has. -/
theorem get?_clusters_addNode (zone : String) :
    (diagram.addNode key component shape risk).clusters.get? zone =
      if zone = Component.normalize component.zone then
        let cluster := (diagram.clusters.get? zone).getD ⟨zone, component.zone, []⟩
        some { cluster with nodes := cluster.nodes ++ [key] }
      else diagram.clusters.get? zone := by
  rw [addNode, if_neg unknown]
  refine (OrderedMap.get?_alter _ _ zone _).trans ?_
  by_cases own : zone = Component.normalize component.zone
  · subst own
    rfl
  · rw [if_neg own, if_neg own]

end AddNode

/-! ## Keys and labels -/

/-- The key of a node can be read off two labels: its own, and that of its cluster. -/
structure Identifies
    (diagram : Diagram)
    (key : String)
    (node : Node) :
    Prop where
  node_key : node.key = key
  key_eq : key = node.cluster ++ "-" ++ Component.normalize node.label
  cluster_eq :
    ∃ cluster,
      diagram.clusters.get? node.cluster = some cluster ∧
        node.cluster = Component.normalize cluster.label

/-- Every node is identified, and every cluster stands under the normal form of its label. -/
structure Identified (diagram : Diagram) : Prop where
  nodes : ∀ key node, diagram.nodes.get? key = some node → diagram.Identifies key node
  clusters : ∀ zone cluster,
    diagram.clusters.get? zone = some cluster → zone = Component.normalize cluster.label

/-- The action places nothing but a component under its own key. -/
def Action.Keyed : Action → Prop
  | .place key component _ _ => component.key = key
  | .connect _ => True

namespace Identified

theorem empty : Identified ∅ := by
  constructor
  · intro key node found
    cases found
  · intro zone cluster found
    cases found

variable {diagram : Diagram} (identified : diagram.Identified)

include identified

section AddNode

variable
  {key : String}
  {component : Component}
  (unknown : ¬diagram.nodes.contains key = true)
  (shape : NodeShape)
  (risk : Option Risk)

include unknown

/-- A cluster is labelled with the first spelling of its zone, and all spellings of a zone have one
normal form. -/
theorem label_addNode
    {zone : String}
    {cluster : Cluster}
    (found : (diagram.addNode key component shape risk).clusters.get? zone = some cluster) :
    zone = Component.normalize cluster.label := by
  rw [get?_clusters_addNode component shape risk unknown] at found
  by_cases own : zone = Component.normalize component.zone
  · rw [if_pos own] at found
    obtain rfl := Option.some.inj found
    cases before : diagram.clusters.get? zone with
    | none => exact own
    | some cluster => exact identified.clusters zone cluster before
  · rw [if_neg own] at found
    exact identified.clusters zone cluster found

/-- The zone of the node and all zones from before have a cluster. -/
theorem cluster_addNode
    {zone : String}
    (present :
      zone = Component.normalize component.zone ∨ diagram.clusters.get? zone ≠ none) :
    ∃ cluster,
      (diagram.addNode key component shape risk).clusters.get? zone = some cluster ∧
        zone = Component.normalize cluster.label := by
  have there : (diagram.addNode key component shape risk).clusters.get? zone ≠ none := by
    rw [get?_clusters_addNode component shape risk unknown]
    by_cases own : zone = Component.normalize component.zone
    · rw [if_pos own]
      exact Option.some_ne_none _
    · rw [if_neg own]
      exact present.resolve_left own
  obtain ⟨cluster, found⟩ := Option.ne_none_iff_exists'.mp there
  exact ⟨cluster, found, identified.label_addNode unknown shape risk found⟩

end AddNode

theorem addNode
    {key : String}
    {component : Component}
    (keyed : component.key = key)
    (shape : NodeShape)
    (risk : Option Risk) :
    (diagram.addNode key component shape risk).Identified := by
  by_cases known : diagram.nodes.contains key = true
  · rwa [addNode_of_known component shape risk known]
  constructor
  · intro other node found
    rw [get?_nodes_addNode component shape risk known] at found
    by_cases own : other = key
    · rw [if_pos own] at found
      obtain rfl := Option.some.inj found
      exact ⟨own.symm, own.trans keyed.symm, identified.cluster_addNode known shape risk (.inl rfl)⟩
    · rw [if_neg own] at found
      obtain ⟨node_key, key_eq, cluster, before, _⟩ := identified.nodes other node found
      have present : diagram.clusters.get? node.cluster ≠ none := by
        rw [before]
        exact Option.some_ne_none cluster
      exact ⟨node_key, key_eq, identified.cluster_addNode known shape risk (.inr present)⟩
  · intro zone cluster found
    exact identified.label_addNode known shape risk found

theorem perform
    {action : Action}
    (keyed : action.Keyed) :
    (diagram.perform action).Identified := by
  cases action with
  | place key component shape risk => exact identified.addNode keyed shape risk
  | connect edge =>
      constructor
      · intro key node found
        obtain ⟨node_key, key_eq, cluster_eq⟩ := identified.nodes key node found
        exact ⟨node_key, key_eq, cluster_eq⟩
      · exact identified.clusters

theorem foldl_perform
    {actions : List Action}
    (keyed : ∀ action ∈ actions, action.Keyed) :
    (actions.foldl Diagram.perform diagram).Identified := by
  induction actions generalizing diagram with
  | nil => exact identified
  | cons action rest inductionHypothesis =>
      have performed := identified.perform (keyed action List.mem_cons_self)
      exact inductionHypothesis performed fun later member =>
        keyed later (List.mem_cons_of_mem action member)

end Identified

/-! ## The actions of declared functions -/

variable (functions : OrderedMap String Declaration) (graph : CallGraph)

/-- The record of a component is spelled in some way that has its key. -/
theorem keyed_callActions : ∀ action ∈ callActions functions graph, action.Keyed := by
  intro action member
  obtain ⟨step, _, isAction⟩ := List.mem_filterMap.mp member
  cases step with
  | connect source dest contributions =>
      obtain rfl := Option.some.inj isAction
      trivial
  | place key =>
      obtain ⟨record, found, rfl⟩ := Option.map_eq_some_iff.mp isAction
      exact (ComponentIndex.gathers_of_get? functions found).key_component

theorem keyed_flowActions : ∀ action ∈ flowActions functions, action.Keyed := by
  intro action member
  obtain ⟨flow, _, isAction⟩ := List.mem_flatMap.mp member
  simp only [Flow.actions, List.mem_cons, List.not_mem_nil, or_false] at isAction
  rcases isAction with rfl | rfl | rfl
  · rfl
  · rfl
  · trivial

/-- Both ends of every interaction are in the index, so that the building succeeds; and in the
diagram, the key of a node is that of any spelling of its component. -/
theorem ofFunctions_identifies :
    (∀ source dests,
      (Interaction.ofCalls functions graph).edges.get? source = some dests →
        source ∈ (ComponentIndex.ofFunctions functions).keys ∧
          ∀ dest ∈ dests.keys, dest ∈ (ComponentIndex.ofFunctions functions).keys) ∧
      ∃ diagram,
        ofFunctions functions graph (.ofFunctions functions) = .ok diagram ∧
          ∀ key node, diagram.nodes.get? key = some node → diagram.Identifies key node := by
  constructor
  · intro source dests found
    have isSource : source ∈ (Interaction.ofCalls functions graph).edges.keys :=
      List.mem_map_of_mem (OrderedMap.get?_eq_some_iff.mp found)
    constructor
    · apply Interaction.mem_keys_of_place functions graph
      exact Interaction.place_mem_steps.mpr (.inl isSource)
    · intro dest isDest
      apply Interaction.mem_keys_of_place functions graph
      exact Interaction.place_mem_steps.mpr (.inr ⟨source, dests, found, isDest⟩)
  · refine ⟨_, ofFunctions_eq_foldl_perform functions graph, ?_⟩
    have keyed : ∀ action ∈ callActions functions graph ++ flowActions functions, action.Keyed := by
      intro action member
      rcases List.mem_append.mp member with member | member
      · exact keyed_callActions functions graph action member
      · exact keyed_flowActions functions action member
    exact (Identified.empty.foldl_perform keyed).nodes

/-- A function of a cached service and the cache, both spelled in several ways. -/
def cachedFunctions : OrderedMap String Declaration :=
  .ofList
    [("serve",
        { model := "web", function := "serve", raw := ""
          exposures := [⟨⟨"Web", "API"⟩, "spoofing", "no token", none, ""⟩]
          flows := [⟨.sends, "keys", ⟨"web", "a-p-i"⟩, ⟨"WEB", "The cache"⟩, ""⟩] }),
      ("find",
        { model := "web", function := "find", raw := ""
          activities := [⟨"lookups", ⟨"Data base", "Rows"⟩, none, ""⟩]
          flows := [⟨.receives, "rows", ⟨"database", "rows"⟩, ⟨"web", "TheCache"⟩, ""⟩] })]

def cachedCalls : CallGraph :=
  .ofList [("serve", .ofList [("find", [⟨3, 1⟩])])]

/-- What is called, as the service does. -/
def cachedDests : Destinations :=
  .ofList [("database-rows", [⟨"find", 0, 0⟩])]

/-- The cache, as the service spells it. -/
def cacheNode : Node :=
  ⟨"web-thecache", "The cache", "web", .oval, none⟩

theorem cacheNode_identified :
    (Interaction.ofCalls cachedFunctions cachedCalls).edges.get? "web-api" = some cachedDests ∧
      "database-rows" ∈ cachedDests.keys ∧
      "web-api" ∈ (ComponentIndex.ofFunctions cachedFunctions).keys ∧
      "database-rows" ∈ (ComponentIndex.ofFunctions cachedFunctions).keys ∧
      ∃ diagram,
        ofFunctions cachedFunctions cachedCalls (.ofFunctions cachedFunctions) = .ok diagram ∧
          diagram.nodes.get? "web-thecache" = some cacheNode ∧
          diagram.Identifies "web-thecache" cacheNode := by
  obtain ⟨ends, diagram, built, identified⟩ :=
    ofFunctions_identifies cachedFunctions cachedCalls
  have linked : (Interaction.ofCalls cachedFunctions cachedCalls).edges.get? "web-api" =
      some cachedDests := by
    decide +kernel
  have isDest : "database-rows" ∈ cachedDests.keys := by decide
  have found :
      (ofFunctions cachedFunctions cachedCalls (.ofFunctions cachedFunctions)).toOption.bind
        (·.nodes.get? "web-thecache") = some cacheNode := by
    decide +kernel
  rw [built] at found
  obtain ⟨sourceKnown, destsKnown⟩ := ends "web-api" cachedDests linked
  exact ⟨linked, isDest, sourceKnown, destsKnown "database-rows" isDest,
    diagram, built, found, identified "web-thecache" cacheNode found⟩

end ThreatModel.Diagram
