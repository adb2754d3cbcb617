import Mathlib.Data.List.Nodup
import Mathlib.Data.List.Pairwise
import ThreatModel.Proofs.Diagram.WellFormed

/-!
Contract: the nodes of a diagram, cluster by cluster, as a writer goes through them.

Owns:
- the keys that clusters list, which are the keys of the nodes, each of them once;
- the members of a cluster, which a well-formed diagram always has.

Does not own: what is written of a node or of a cluster.
-/

namespace ThreatModel.Diagram

/-- The keys that are listed, cluster by cluster. -/
def listedKeys (diagram : Diagram) : List String :=
  diagram.clusters.values.flatMap Cluster.nodes

/-- The nodes that a cluster lists, as far as they are there. -/
def nodesOf
    (diagram : Diagram)
    (cluster : Cluster) :
    List Node :=
  cluster.nodes.filterMap diagram.nodes.get?

/-- Where every element has an answer, so has the list of them. -/
theorem mapM_eq_filterMap
    {α β ε : Type}
    {elements : List α}
    {answer : α → Except ε β}
    {find? : α → Option β}
    (answered : ∀ element ∈ elements,
      ∃ found, find? element = some found ∧ answer element = .ok found) :
    elements.mapM answer = .ok (elements.filterMap find?) := by
  induction elements with
  | nil => rfl
  | cons head rest inductionHypothesis =>
      obtain ⟨found, isFound, isAnswer⟩ := answered head List.mem_cons_self
      have later := inductionHypothesis fun element member =>
        answered element (List.mem_cons_of_mem head member)
      rw [List.mapM_cons, isAnswer, later, List.filterMap_cons_some isFound]
      rfl

/-- Each cluster lists what is listed under its zone. -/
theorem listedKeys_eq_flatMap_listed (diagram : Diagram) :
    diagram.listedKeys = diagram.clusters.keys.flatMap diagram.listed := by
  rw [listedKeys, OrderedMap.values, OrderedMap.keys, List.flatMap_map, List.flatMap_map]
  apply List.flatMap_congr
  intro entry member
  rw [listed, OrderedMap.get?_eq_some_iff.mpr member, Option.elim_some]

namespace WellFormed

variable {diagram : Diagram} (wellFormed : diagram.WellFormed)

include wellFormed

theorem exists_node_of_listed
    {zone key : String}
    (isListed : key ∈ diagram.listed zone) :
    ∃ node, diagram.nodes.get? key = some node ∧ node.cluster = zone ∧
      (diagram.listed zone).count key = 1 := by
  have isKey := wellFormed.listed_nodes zone key isListed
  obtain ⟨node, found⟩ := OrderedMap.mem_keys_iff.mp isKey
  have once := wellFormed.listed_once key node found zone
  have counted := List.count_pos_iff.mpr isListed
  by_cases home : zone = node.cluster
  · rw [if_pos home] at once
    exact ⟨node, found, home.symm, once⟩
  · rw [if_neg home] at once
    exact absurd counted (once ▸ Nat.lt_irrefl 0)

theorem mem_listedKeys_iff {key : String} :
    key ∈ diagram.listedKeys ↔ key ∈ diagram.nodes.keys := by
  rw [listedKeys_eq_flatMap_listed, List.mem_flatMap]
  constructor
  · rintro ⟨zone, _, isListed⟩
    exact wellFormed.listed_nodes zone key isListed
  · intro isKey
    obtain ⟨node, found⟩ := OrderedMap.mem_keys_iff.mp isKey
    have once := wellFormed.listed_once key node found node.cluster
    rw [if_pos rfl] at once
    have isListed : key ∈ diagram.listed node.cluster :=
      List.count_pos_iff.mp (once ▸ Nat.one_pos)
    have isZone : node.cluster ∈ diagram.clusters.keys := by
      by_contra noZone
      rw [listed, OrderedMap.get?_eq_none_iff.mpr noZone] at isListed
      cases isListed
    exact ⟨node.cluster, isZone, isListed⟩

/-- No node is listed twice, be it by one cluster or by two. -/
theorem nodup_listedKeys : diagram.listedKeys.Nodup := by
  rw [listedKeys_eq_flatMap_listed, List.nodup_flatMap]
  constructor
  · intro zone _
    rw [List.nodup_iff_count_le_one]
    intro key
    by_cases isListed : key ∈ diagram.listed zone
    · obtain ⟨_, _, _, once⟩ := wellFormed.exists_node_of_listed isListed
      exact Nat.le_of_eq once
    · rw [List.count_eq_zero_of_not_mem isListed]
      exact Nat.zero_le 1
  · refine diagram.clusters.keys_nodup.imp fun {zone other} differ key isListed otherListed => ?_
    obtain ⟨node, found, home, _⟩ := wellFormed.exists_node_of_listed isListed
    obtain ⟨same, otherFound, otherHome, _⟩ := wellFormed.exists_node_of_listed otherListed
    obtain rfl := Option.some.inj (found.symm.trans otherFound)
    exact differ (home.symm.trans otherHome)

variable {cluster : Cluster} (isCluster : cluster ∈ diagram.clusters.values)

include isCluster

/-- Every node that a cluster lists is there, under its own key. -/
theorem exists_node
    {key : String}
    (isListed : key ∈ cluster.nodes) :
    ∃ node, diagram.nodes.get? key = some node ∧ node.key = key := by
  have member : key ∈ diagram.listedKeys := List.mem_flatMap.mpr ⟨cluster, isCluster, isListed⟩
  have isKey := wellFormed.mem_listedKeys_iff.mp member
  obtain ⟨node, found⟩ := OrderedMap.mem_keys_iff.mp isKey
  exact ⟨node, found, wellFormed.node_key key node found⟩

theorem map_key_nodesOf : (diagram.nodesOf cluster).map Node.key = cluster.nodes := by
  have sameKeys : ∀ key ∈ cluster.nodes,
      (diagram.nodes.get? key).map Node.key = some key := by
    intro key isListed
    obtain ⟨node, found, sameKey⟩ := wellFormed.exists_node isCluster isListed
    rw [found, Option.map_some, sameKey]
  rw [nodesOf, List.map_filterMap, List.filterMap_congr sameKeys, List.filterMap_some]

/-- No member of a cluster is missing. -/
theorem members_eq : diagram.members cluster = .ok (diagram.nodesOf cluster) := by
  apply mapM_eq_filterMap
  intro key isListed
  obtain ⟨node, found, _⟩ := wellFormed.exists_node isCluster isListed
  exact ⟨node, found, by rw [found]⟩

end WellFormed

/-- What is done with each cluster and its members can always be done. -/
theorem WellFormed.mapM_clusters
    {diagram : Diagram}
    (wellFormed : diagram.WellFormed)
    {α : Type}
    (view : Cluster → List Node → α) :
    (diagram.clusters.values.mapM fun cluster => do
        return view cluster (← diagram.members cluster)) =
      .ok (diagram.clusters.values.map fun cluster => view cluster (diagram.nodesOf cluster)) := by
  rw [← List.filterMap_eq_map]
  apply mapM_eq_filterMap
  intro cluster isCluster
  exact ⟨_, rfl, by rw [wellFormed.members_eq isCluster]; rfl⟩

end ThreatModel.Diagram
