import ThreatModel.Proofs.Diagram.Identity

/-!
Contract: diagrams are well formed, whatever is added to them.

Owns:
- the nodes that are listed under a zone;
- what makes a diagram well formed, and that the addition of a node or of an edge
  between nodes keeps it so;
- additions in a row: interactions of any origin, which may fail on the way and leave
  what they have built, and flows.

Does not own: which components an addition places.
-/

namespace ThreatModel

namespace Diagram

/-! ## Listed nodes -/

/-- The nodes that the cluster of a zone lists, if it has a cluster. -/
def listed
    (diagram : Diagram)
    (zone : String) :
    List String :=
  (diagram.clusters.get? zone).elim [] Cluster.nodes

/-- A new node is listed last, under its own zone. -/
theorem listed_addNode
    {diagram : Diagram}
    {key : String}
    (unknown : ¬diagram.nodes.contains key = true)
    (component : Component)
    (shape : NodeShape)
    (risk : Option Risk)
    (zone : String) :
    (diagram.addNode key component shape risk).listed zone =
      diagram.listed zone ++ if zone = Component.normalize component.zone then [key] else [] := by
  rw [listed, get?_clusters_addNode component shape risk unknown]
  by_cases own : zone = Component.normalize component.zone
  · rw [if_pos own, if_pos own, Option.elim_some, listed]
    cases diagram.clusters.get? zone <;> rfl
  · rw [if_neg own, if_neg own, List.append_nil, listed]

/-- The nodes after an addition are those from before, and the node itself. -/
theorem mem_keys_addNode
    (diagram : Diagram)
    (key : String)
    (component : Component)
    (shape : NodeShape)
    (risk : Option Risk)
    (other : String) :
    other ∈ (diagram.addNode key component shape risk).nodes.keys ↔
      other ∈ diagram.nodes.keys ∨ other = key := by
  by_cases known : diagram.nodes.contains key = true
  · rw [addNode_of_known component shape risk known]
    have isKey := OrderedMap.contains_iff.mp known
    constructor
    · exact .inl
    · rintro (before | rfl)
      · exact before
      · exact isKey
  · have unknown : key ∉ diagram.nodes.keys := mt OrderedMap.contains_iff.mpr known
    rw [addNode, if_neg known, OrderedMap.keys_insert, if_neg unknown, List.mem_append,
      List.mem_singleton]

/-! ## Well-formed diagrams -/

/-- Nodes and clusters stand under their own keys. The cluster that a node names lists it once and
no other cluster lists it; clusters list nothing but nodes, and at least one; and edges join
nodes. -/
structure WellFormed (diagram : Diagram) : Prop where
  node_key : ∀ key node, diagram.nodes.get? key = some node → node.key = key
  cluster_key : ∀ zone cluster, diagram.clusters.get? zone = some cluster → cluster.key = zone
  listed_once : ∀ key node, diagram.nodes.get? key = some node →
    ∀ zone, (diagram.listed zone).count key = if zone = node.cluster then 1 else 0
  listed_nodes : ∀ zone, ∀ key ∈ diagram.listed zone, key ∈ diagram.nodes.keys
  inhabited : ∀ zone cluster, diagram.clusters.get? zone = some cluster → cluster.nodes ≠ []
  ends : ∀ edge ∈ diagram.edges,
    edge.source ∈ diagram.nodes.keys ∧ edge.dest ∈ diagram.nodes.keys

namespace WellFormed

theorem empty : WellFormed ∅ := by
  constructor
  · intro key node found
    cases found
  · intro zone cluster found
    cases found
  · intro key node found
    cases found
  · intro zone key member
    cases member
  · intro zone cluster found
    cases found
  · intro edge member
    cases member

variable {diagram : Diagram} (wellFormed : diagram.WellFormed)

include wellFormed

section AddNode

variable
  {key : String}
  (unknown : ¬diagram.nodes.contains key = true)
  (component : Component)
  (shape : NodeShape)
  (risk : Option Risk)

include unknown

/-- No zone lists a key that is no node, so that a new node is listed once. -/
theorem listed_once_addNode
    {other : String}
    {node : Node}
    (found : (diagram.addNode key component shape risk).nodes.get? other = some node)
    (zone : String) :
    ((diagram.addNode key component shape risk).listed zone).count other =
      if zone = node.cluster then 1 else 0 := by
  rw [get?_nodes_addNode component shape risk unknown] at found
  rw [listed_addNode unknown, List.count_append]
  by_cases own : other = key
  · rw [if_pos own] at found
    obtain rfl := Option.some.inj found
    have notListed : other ∉ diagram.listed zone := by
      intro member
      have isKey := wellFormed.listed_nodes zone other member
      exact unknown (OrderedMap.contains_iff.mpr (own ▸ isKey))
    rw [List.count_eq_zero_of_not_mem notListed, Nat.zero_add, own]
    by_cases home : zone = Component.normalize component.zone
    · simp [home]
    · simp [home]
  · rw [if_neg own] at found
    have notAdded : other ∉ if zone = Component.normalize component.zone then [key] else [] := by
      split
      · exact mt List.mem_singleton.mp own
      · exact List.not_mem_nil
    rw [List.count_eq_zero_of_not_mem notAdded, Nat.add_zero]
    exact wellFormed.listed_once other node found zone

/-- The cluster of the zone is opened under its key, or it keeps its key; and it lists the node. -/
theorem cluster_addNode
    {zone : String}
    {cluster : Cluster}
    (found : (diagram.addNode key component shape risk).clusters.get? zone = some cluster) :
    cluster.key = zone ∧ cluster.nodes ≠ [] := by
  rw [get?_clusters_addNode component shape risk unknown] at found
  by_cases own : zone = Component.normalize component.zone
  · rw [if_pos own] at found
    obtain rfl := Option.some.inj found
    refine ⟨?_, List.append_ne_nil_of_right_ne_nil _ (List.cons_ne_nil key [])⟩
    cases before : diagram.clusters.get? zone with
    | none => rfl
    | some cluster => exact wellFormed.cluster_key zone cluster before
  · rw [if_neg own] at found
    exact ⟨wellFormed.cluster_key zone cluster found, wellFormed.inhabited zone cluster found⟩

end AddNode

/-- The step lemma of nodes. -/
theorem addNode
    (key : String)
    (component : Component)
    (shape : NodeShape)
    (risk : Option Risk) :
    (diagram.addNode key component shape risk).WellFormed := by
  by_cases known : diagram.nodes.contains key = true
  · rwa [addNode_of_known component shape risk known]
  have stays (other : String) (before : other ∈ diagram.nodes.keys) :
      other ∈ (diagram.addNode key component shape risk).nodes.keys :=
    (mem_keys_addNode diagram key component shape risk other).mpr (.inl before)
  constructor
  · intro other node found
    rw [get?_nodes_addNode component shape risk known] at found
    by_cases own : other = key
    · rw [if_pos own] at found
      obtain rfl := Option.some.inj found
      exact own.symm
    · rw [if_neg own] at found
      exact wellFormed.node_key other node found
  · intro zone cluster found
    exact (wellFormed.cluster_addNode known component shape risk found).1
  · intro other node found zone
    exact wellFormed.listed_once_addNode known component shape risk found zone
  · intro zone other member
    rw [listed_addNode known, List.mem_append] at member
    rcases member with before | added
    · exact stays other (wellFormed.listed_nodes zone other before)
    · have isNew : other = key := by
        split at added
        · exact List.mem_singleton.mp added
        · cases added
      exact (mem_keys_addNode diagram key component shape risk other).mpr (.inr isNew)
  · intro zone cluster found
    exact (wellFormed.cluster_addNode known component shape risk found).2
  · intro edge member
    rw [Diagram.addNode, if_neg known] at member
    obtain ⟨sourceKnown, destKnown⟩ := wellFormed.ends edge member
    exact ⟨stays edge.source sourceKnown, stays edge.dest destKnown⟩

/-- The step lemma of edges. -/
theorem addEdge
    {edge : DiagramEdge}
    (sourceKnown : edge.source ∈ diagram.nodes.keys)
    (destKnown : edge.dest ∈ diagram.nodes.keys) :
    (diagram.addEdge edge).WellFormed where
  node_key := wellFormed.node_key
  cluster_key := wellFormed.cluster_key
  listed_once := wellFormed.listed_once
  listed_nodes := wellFormed.listed_nodes
  inhabited := wellFormed.inhabited
  ends other member := by
    rcases List.mem_append.mp member with before | added
    · exact wellFormed.ends other before
    · obtain rfl := List.mem_singleton.mp added
      exact ⟨sourceKnown, destKnown⟩

/-- Both ends of a flow are placed before it is drawn. -/
theorem addFlow (flow : Flow) : (diagram.addFlow flow).WellFormed := by
  apply ((wellFormed.addNode _ _ _ _).addNode _ _ _ _).addEdge
  · exact (mem_keys_addNode _ _ _ _ _ _).mpr (.inl ((mem_keys_addNode _ _ _ _ _ _).mpr (.inr rfl)))
  · exact (mem_keys_addNode _ _ _ _ _ _).mpr (.inr rfl)

theorem addFlows (functions : OrderedMap String Declaration) :
    (diagram.addFlows functions).WellFormed := by
  unfold Diagram.addFlows
  induction functions.values.flatMap Declaration.flows generalizing diagram with
  | nil => exact wellFormed
  | cons flow rest inductionHypothesis => exact inductionHypothesis (wellFormed.addFlow flow)

end WellFormed

/-! ## Steps in order -/

/-- Nothing is connected before both of its ends are placed. -/
def Staged (placed : List String) : List DiagramStep → Prop
  | [] => True
  | .place key :: rest => Staged (key :: placed) rest
  | .connect source dest _ :: rest => source ∈ placed ∧ dest ∈ placed ∧ Staged placed rest

namespace Staged

theorem mono
    {fewer more : List String}
    {steps : List DiagramStep}
    (staged : Staged fewer steps)
    (among : fewer ⊆ more) :
    Staged more steps := by
  induction steps generalizing fewer more with
  | nil => trivial
  | cons step rest inductionHypothesis =>
      cases step with
      | place key => exact inductionHypothesis staged (List.cons_subset_cons key among)
      | connect source dest contributions =>
          obtain ⟨sourcePlaced, destPlaced, later⟩ := staged
          exact ⟨among sourcePlaced, among destPlaced, inductionHypothesis later among⟩

theorem append
    {placed : List String}
    {front back : List DiagramStep}
    (first : Staged placed front)
    (second : Staged placed back) :
    Staged placed (front ++ back) := by
  induction front generalizing placed with
  | nil => exact second
  | cons step rest inductionHypothesis =>
      cases step with
      | place key =>
          exact inductionHypothesis first (second.mono (List.subset_cons_self key placed))
      | connect source dest contributions =>
          obtain ⟨sourcePlaced, destPlaced, later⟩ := first
          exact ⟨sourcePlaced, destPlaced, inductionHypothesis later second⟩

theorem flatMap
    {α : Type}
    {placed : List String}
    {expand : α → List DiagramStep}
    (staged : ∀ element, Staged placed (expand element))
    (elements : List α) :
    Staged placed (elements.flatMap expand) := by
  induction elements with
  | nil => trivial
  | cons head rest inductionHypothesis => exact (staged head).append inductionHypothesis

/-- The steps of any interaction place a source, then each destination before its edge. -/
theorem steps (interaction : Interaction) : Staged [] interaction.steps := by
  refine flatMap (fun entry => ?_) _
  have dests : Staged [entry.1] (entry.2.entries.flatMap fun inner =>
      [.place inner.1, .connect entry.1 inner.1 inner.2]) := by
    refine flatMap (fun inner => ?_) _
    exact ⟨List.mem_cons_of_mem _ List.mem_cons_self, List.mem_cons_self, trivial⟩
  exact dests

end Staged

/-- The run lemma: steps may fail, and what they leave is well formed. -/
theorem WellFormed.run
    {diagram : Diagram}
    (wellFormed : diagram.WellFormed)
    (index : ComponentIndex)
    (interaction : Interaction)
    {placed : List String}
    {steps : List DiagramStep}
    (staged : Staged placed steps)
    (known : placed ⊆ diagram.nodes.keys) :
    (diagram.run index interaction steps).1.WellFormed := by
  induction steps generalizing diagram placed with
  | nil => exact wellFormed
  | cons step rest inductionHypothesis =>
      cases step with
      | place key =>
          rw [Diagram.run, step]
          cases index.get? key with
          | none => exact wellFormed
          | some record =>
              apply inductionHypothesis (wellFormed.addNode _ _ _ _) staged
              intro other isPlaced
              rw [mem_keys_addNode]
              rcases List.mem_cons.mp isPlaced with here | before
              · exact .inr here
              · exact .inl (known before)
      | connect source dest contributions =>
          obtain ⟨sourcePlaced, destPlaced, later⟩ := staged
          have connected :
              (diagram.addEdge (Contribution.edge source dest contributions)).WellFormed :=
            wellFormed.addEdge (known sourcePlaced) (known destPlaced)
          exact inductionHypothesis connected later known

theorem WellFormed.addInteraction
    {diagram : Diagram}
    (wellFormed : diagram.WellFormed)
    (index : ComponentIndex)
    (interaction : Interaction) :
    (diagram.addInteraction index interaction).1.WellFormed :=
  wellFormed.run index interaction (Staged.steps interaction) (List.nil_subset _)

/-- What is built of declared functions is well formed. -/
theorem wellFormed_of_ofFunctions
    {functions : OrderedMap String Declaration}
    {graph : CallGraph}
    {index : ComponentIndex}
    {diagram : Diagram}
    (built : ofFunctions functions graph index = .ok diagram) :
    diagram.WellFormed := by
  have called := WellFormed.empty.addInteraction index (Interaction.ofCalls functions graph)
  rw [ofFunctions] at built
  split at built
  · cases built
  · rename_i drawn added
    rw [added] at called
    obtain rfl := Except.ok.inj built
    exact called.addFlows functions

/-! ## Additions in a row -/

/-- What a diagram may be given. -/
inductive Addition where
  | interaction (interaction : Interaction)
  | flow (flow : Flow)

/-- The diagram with what could be added: an interaction stops at a component that is missing. -/
def absorb
    (index : ComponentIndex)
    (diagram : Diagram) :
    Addition → Diagram
  | .interaction interaction => (diagram.addInteraction index interaction).1
  | .flow flow => diagram.addFlow flow

/-- The diagram after additions, each of which may have failed half-way. -/
def ofAdditions
    (index : ComponentIndex)
    (additions : List Addition) :
    Diagram :=
  additions.foldl (absorb index) ∅

/-- The step lemma of additions. -/
theorem WellFormed.absorb
    {diagram : Diagram}
    (wellFormed : diagram.WellFormed)
    (index : ComponentIndex)
    (addition : Addition) :
    (diagram.absorb index addition).WellFormed := by
  cases addition with
  | interaction interaction => exact wellFormed.addInteraction index interaction
  | flow flow => exact wellFormed.addFlow flow

/-- Whatever is added, with whatever index, the diagram is well formed after every addition, also
where one has failed half-way. -/
theorem wellFormed_ofAdditions
    (index : ComponentIndex)
    (additions : List Addition) :
    (ofAdditions index additions).WellFormed := by
  have added (diagram : Diagram) (wellFormed : diagram.WellFormed) :
      (additions.foldl (absorb index) diagram).WellFormed := by
    induction additions generalizing diagram with
    | nil => exact wellFormed
    | cons addition rest inductionHypothesis =>
        exact inductionHypothesis _ (wellFormed.absorb index addition)
  exact added ∅ .empty

/-- What an interaction has placed before it fails stays in its cluster. -/
example :
    let index : ComponentIndex := .ofList [("web-api", .ofComponent ⟨"Web", "API"⟩)]
    let halfKnown : Interaction := { edges := .ofList [("web-api", .ofList [("data-rows", [])])] }
    let diagram := ofAdditions index [.interaction halfKnown]
    diagram.nodes.keys = ["web-api"] ∧ diagram.listed "web" = ["web-api"] ∧ diagram.edges = [] := by
  decide

end Diagram

end ThreatModel
