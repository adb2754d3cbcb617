import ThreatModel.Diagram.Mermaid
import ThreatModel.Proofs.Diagram.Members
import ThreatModel.Proofs.Diagram.Order

/-!
Contract: the identifiers under which a Mermaid drawing has its clusters and its nodes.

Owns:
- the identifiers of normal texts, and of the keys that two of them make;
- that different nodes have different identifiers, and so have different clusters;
- when a cluster and a node come to share an identifier.

Does not own: labels, or the lines that identifiers stand in.
-/

namespace ThreatModel

open ThreatModel.Text

theorem Component.isAlphanumeric_of_isKeyChar
    {character : Char}
    (isKeyChar : isKeyChar character = true) :
    isAlphanumeric character = true := by
  rw [isAlphanumeric, inRanges_iff]
  rcases isKeyChar_iff.mp isKeyChar with isLetter | isDigit
  · exact ⟨(0x61, 0x7A), by decide +kernel, isLetter⟩
  · exact ⟨(0x30, 0x39), by decide +kernel, isDigit⟩

namespace Diagram.Mermaid

open ThreatModel.Component

/-! ## Identifiers of keys -/

/-- What stands before the identifier of a key that begins with this zone. -/
def digitMark : List Char → List Char
  | [] => []
  | first :: _ => if isDigit first then ['N', '_'] else []

/-- The zone behind its mark. -/
def dropMark : List Char → List Char
  | 'N' :: '_' :: rest => rest
  | text => text

theorem dropMark_append_digitMark
    {zone : String}
    (isNormal : IsNormal zone) :
    dropMark (digitMark zone.toList ++ zone.toList) = zone.toList := by
  cases spelled : zone.toList with
  | nil => rfl
  | cons first rest =>
      rw [digitMark]
      by_cases digit : isDigit first = true
      · rw [if_pos digit]
        rfl
      · have capital : 'N' ∉ zone.toList := isNormal.not_mem (by decide)
        rw [spelled, List.mem_cons, not_or] at capital
        rw [if_neg digit, List.nil_append, dropMark]
        intro tail sameText
        exact capital.1 (List.cons.inj sameText).1.symm

/-- A key is kept but for its dash. -/
theorem map_key
    {text : List Char}
    (normal : ∀ character ∈ text, isKeyChar character = true) :
    (text.map fun character => if isAlphanumeric character then character else '_') = text := by
  refine (List.map_congr_left fun character member => ?_).trans (List.map_id text)
  rw [if_pos (isAlphanumeric_of_isKeyChar (normal character member)), id]

theorem trim_of_inked
    {text : List Char}
    (inked : ∀ character ∈ text, isBlank character = false) :
    trim text = text := by
  have kept (other : List Char) (sameMembers : ∀ character ∈ other, character ∈ text) :
      other.dropWhile isBlank = other := by
    cases other with
    | nil => rfl
    | cons first rest =>
        have firstInked := inked first (sameMembers first List.mem_cons_self)
        rw [List.dropWhile_cons_of_neg (by simp [firstInked])]
  rw [trim, trimStart, kept text fun _ member => member, trimEnd,
    kept text.reverse fun _ member => List.mem_reverse.mp member, List.reverse_reverse]

/-- A dash and a low line between normal texts come out alike. -/
theorem identifierChars_joined
    {front back : String}
    (frontNormal : IsNormal front)
    (backNormal : IsNormal back)
    {joint : Char}
    (isJoint : joint = '-' ∨ joint = '_') :
    identifierChars (front.toList ++ joint :: back.toList) =
      digitMark front.toList ++ front.toList ++ '_' :: back.toList := by
  have jointInked : isBlank joint = false := by
    rcases isJoint with rfl | rfl
    · decide
    · decide
  have jointMark : isAlphanumeric joint = false := by
    rcases isJoint with rfl | rfl
    · decide +kernel
    · decide +kernel
  have inked : ∀ character ∈ front.toList ++ joint :: back.toList, isBlank character = false := by
    intro character member
    rcases List.mem_append.mp member with inFront | rest
    · exact isBlank_of_isKeyChar (frontNormal character inFront)
    · rcases List.mem_cons.mp rest with rfl | inBack
      · exact jointInked
      · exact isBlank_of_isKeyChar (backNormal character inBack)
  rw [identifierChars, trim_of_inked inked, List.map_append, List.map_cons, map_key frontNormal,
    map_key backNormal, jointMark]
  cases front.toList with
  | nil => rfl
  | cons first rest =>
      rw [digitMark]
      by_cases digit : isDigit first = true
      · simp [digit]
      · simp [digit]

theorem identifierChars_key
    {zone name : String}
    (zoneNormal : IsNormal zone)
    (nameNormal : IsNormal name) :
    identifierChars (zone ++ "-" ++ name).toList =
      digitMark zone.toList ++ zone.toList ++ '_' :: name.toList := by
  have spelled : (zone ++ "-" ++ name).toList = zone.toList ++ '-' :: name.toList := by simp
  rw [spelled, identifierChars_joined zoneNormal nameNormal (.inl rfl)]

/-- The key of a component that is called as a zone and is in a zone called cluster. -/
def namesakeKey (zone : String) : String :=
  "cluster" ++ "-" ++ zone

theorem isNormal_cluster : IsNormal "cluster" := by
  simp [IsNormal, isKeyChar]

theorem isKey_namesakeKey
    {zone : String}
    (zoneNormal : IsNormal zone) :
    IsKey (namesakeKey zone) :=
  ⟨"cluster", zone, isNormal_cluster, zoneNormal, rfl⟩

/-- A cluster is drawn as its namesake would be. -/
theorem identifier_cluster
    {zone : String}
    (zoneNormal : IsNormal zone) :
    identifier ("cluster_" ++ zone) = identifier (namesakeKey zone) := by
  have spelled : ("cluster_" ++ zone).toList = "cluster".toList ++ '_' :: zone.toList := by simp
  rw [identifier, identifier, spelled, namesakeKey,
    identifierChars_joined isNormal_cluster zoneNormal (.inr rfl),
    identifierChars_key isNormal_cluster zoneNormal]

/-- The zone ends at the last low line of the identifier. -/
theorem identifier_key_inj
    {key other : String}
    (isKey : IsKey key)
    (isOther : IsKey other)
    (same : identifier key = identifier other) :
    key = other := by
  obtain ⟨zone, name, zoneNormal, nameNormal, rfl⟩ := isKey
  obtain ⟨otherZone, otherName, otherZoneNormal, otherNameNormal, rfl⟩ := isOther
  have sameChars := String.ofList_injective same
  rw [identifierChars_key zoneNormal nameNormal,
    identifierChars_key otherZoneNormal otherNameNormal] at sameChars
  obtain ⟨sameFront, sameName⟩ := append_cons_inj_of_last
    (nameNormal.not_mem (by decide)) (otherNameNormal.not_mem (by decide)) sameChars
  have sameZone := congrArg dropMark sameFront
  rw [dropMark_append_digitMark zoneNormal, dropMark_append_digitMark otherZoneNormal] at sameZone
  rw [String.toList_injective sameZone, String.toList_injective sameName]

theorem identifier_cluster_eq_iff
    {zone key : String}
    (zoneNormal : IsNormal zone)
    (isKey : IsKey key) :
    identifier ("cluster_" ++ zone) = identifier key ↔ namesakeKey zone = key := by
  rw [identifier_cluster zoneNormal]
  exact ⟨identifier_key_inj (isKey_namesakeKey zoneNormal) isKey, congrArg identifier⟩

theorem identifier_cluster_inj
    {zone other : String}
    (zoneNormal : IsNormal zone)
    (otherNormal : IsNormal other)
    (same : identifier ("cluster_" ++ zone) = identifier ("cluster_" ++ other)) :
    zone = other := by
  rw [identifier_cluster otherNormal] at same
  have sameKey := (identifier_cluster_eq_iff zoneNormal (isKey_namesakeKey otherNormal)).mp same
  have sameChars := congrArg String.toList sameKey
  simp only [namesakeKey, String.toList_append] at sameChars
  exact String.toList_injective (List.append_cancel_left sameChars)

end Diagram.Mermaid

namespace Diagram

open ThreatModel.Component
open ThreatModel.Diagram.Mermaid

/-! ## The identifiers of a drawing -/

/-- The identifiers of the clusters, in the order in which they are drawn. -/
def clusterIdentifiers (diagram : Diagram) : List String :=
  diagram.clusters.values.map fun cluster => identifier cluster.name

/-- The identifiers of the nodes, in the order in which they are drawn. -/
def nodeIdentifiers (diagram : Diagram) : List String :=
  diagram.listedKeys.map identifier

/-- Clusters stand under normal texts and nodes under the keys of components. -/
structure Keyed (diagram : Diagram) : Prop where
  cluster_isNormal : ∀ cluster ∈ diagram.clusters.values, IsNormal cluster.key
  node_isKey : ∀ key ∈ diagram.nodes.keys, IsKey key

theorem Identified.keyed
    {diagram : Diagram}
    (identified : diagram.Identified)
    (wellFormed : diagram.WellFormed) :
    diagram.Keyed := by
  constructor
  · intro cluster isCluster
    obtain ⟨zone, found⟩ := OrderedMap.mem_values_iff.mp isCluster
    rw [wellFormed.cluster_key zone cluster found, identified.clusters zone cluster found]
    exact isNormal_normalize cluster.label
  · intro key isKey
    obtain ⟨node, found⟩ := OrderedMap.mem_keys_iff.mp isKey
    obtain ⟨_, key_eq, cluster, _, isCluster⟩ := identified.nodes key node found
    rw [key_eq, isCluster]
    exact isKey_key { zone := cluster.label, name := node.label }

theorem keyed_drawn
    (functions : OrderedMap String Declaration)
    (graph : CallGraph) :
    (drawn functions graph).Keyed :=
  (identified_drawn functions graph).keyed (wellFormed_drawn functions graph)

theorem WellFormed.nodup_map_key
    {diagram : Diagram}
    (wellFormed : diagram.WellFormed) :
    (diagram.clusters.values.map Cluster.key).Nodup := by
  have zones : diagram.clusters.values.map Cluster.key = diagram.clusters.keys := by
    rw [OrderedMap.values, OrderedMap.keys, List.map_map]
    apply List.map_congr_left
    intro entry member
    exact wellFormed.cluster_key entry.1 entry.2 (OrderedMap.get?_eq_some_iff.mpr member)
  rw [zones]
  exact diagram.clusters.keys_nodup

section Keyed

variable {diagram : Diagram} (wellFormed : diagram.WellFormed) (keyed : diagram.Keyed)

include wellFormed keyed

theorem nodup_clusterIdentifiers : diagram.clusterIdentifiers.Nodup := by
  have drawn : diagram.clusterIdentifiers =
      (diagram.clusters.values.map Cluster.key).map fun zone =>
        identifier ("cluster_" ++ zone) := by
    rw [List.map_map]
    rfl
  rw [drawn]
  refine List.Nodup.map_on ?_ wellFormed.nodup_map_key
  intro zone isZone other isOther same
  obtain ⟨cluster, isCluster, rfl⟩ := List.mem_map.mp isZone
  obtain ⟨otherCluster, isOtherCluster, rfl⟩ := List.mem_map.mp isOther
  exact identifier_cluster_inj (keyed.cluster_isNormal cluster isCluster)
    (keyed.cluster_isNormal otherCluster isOtherCluster) same

theorem nodup_nodeIdentifiers : diagram.nodeIdentifiers.Nodup := by
  refine List.Nodup.map_on ?_ wellFormed.nodup_listedKeys
  intro key isListed other otherListed same
  have isKey := keyed.node_isKey key (wellFormed.mem_listedKeys_iff.mp isListed)
  have isOther := keyed.node_isKey other (wellFormed.mem_listedKeys_iff.mp otherListed)
  exact identifier_key_inj isKey isOther same

/-- A cluster shares its identifier with its namesake in a zone called cluster and with no other
node. -/
theorem disjoint_identifiers_iff :
    diagram.clusterIdentifiers.Disjoint diagram.nodeIdentifiers ↔
      ∀ cluster ∈ diagram.clusters.values, namesakeKey cluster.key ∉ diagram.nodes.keys := by
  constructor
  · intro apart cluster isCluster isKey
    have shared := (identifier_cluster_eq_iff (keyed.cluster_isNormal cluster isCluster)
      (keyed.node_isKey _ isKey)).mpr rfl
    have isClusterName : identifier cluster.name ∈ diagram.clusterIdentifiers :=
      List.mem_map_of_mem isCluster
    have isNodeName : identifier (namesakeKey cluster.key) ∈ diagram.nodeIdentifiers :=
      List.mem_map_of_mem (wellFormed.mem_listedKeys_iff.mpr isKey)
    rw [← shared] at isNodeName
    exact apart isClusterName isNodeName
  · intro apart name isClusterName isNodeName
    obtain ⟨cluster, isCluster, rfl⟩ := List.mem_map.mp isClusterName
    obtain ⟨key, isListed, shared⟩ := List.mem_map.mp isNodeName
    have isKey := wellFormed.mem_listedKeys_iff.mp isListed
    have sameKey := (identifier_cluster_eq_iff (keyed.cluster_isNormal cluster isCluster)
      (keyed.node_isKey key isKey)).mp shared.symm
    exact apart cluster isCluster (sameKey ▸ isKey)

end Keyed

/-- In the diagram of any functions along any call graph, clusters have distinct identifiers, and
so have nodes. A cluster and a node share one just when a zone called cluster has a component of
the name of some zone. -/
theorem ofFunctions_identifiers_nodup_iff
    (functions : OrderedMap String Declaration)
    (graph : CallGraph) :
    ∃ diagram,
      ofFunctions functions graph (.ofFunctions functions) = .ok diagram ∧
        diagram.clusterIdentifiers.Nodup ∧
        diagram.nodeIdentifiers.Nodup ∧
        ((diagram.clusterIdentifiers ++ diagram.nodeIdentifiers).Nodup ↔
          ∀ cluster ∈ diagram.clusters.values, namesakeKey cluster.key ∉ diagram.nodes.keys) := by
  have built := ofFunctions_eq_drawn functions graph
  have wellFormed := wellFormed_drawn functions graph
  have keyed := keyed_drawn functions graph
  have clustersApart := nodup_clusterIdentifiers wellFormed keyed
  have nodesApart := nodup_nodeIdentifiers wellFormed keyed
  refine ⟨_, built, clustersApart, nodesApart, ?_⟩
  rw [← disjoint_identifiers_iff wellFormed keyed, List.nodup_append']
  exact ⟨fun ⟨_, _, apart⟩ => apart, fun apart => ⟨clustersApart, nodesApart, apart⟩⟩

/-- A zone called cluster has a component of the same name as the zone that it sends to. -/
def nestedText : String :=
  "// ThreatSpec m for f\n// Sends x from cluster:web to web:api\n"

/-- The subgraph of the zone and the node of the component have one identifier. -/
theorem nestedText_shares_identifier :
    ∃ diagram,
      ofFunctions (Ledger.readAll ∅ [("a.go", nestedText)]).functions ∅
          (.ofFunctions (Ledger.readAll ∅ [("a.go", nestedText)]).functions) = .ok diagram ∧
        diagram.clusterIdentifiers = ["cluster_cluster", "cluster_web"] ∧
        diagram.nodeIdentifiers = ["cluster_web", "web_api"] ∧
        ¬(diagram.clusterIdentifiers ++ diagram.nodeIdentifiers).Nodup := by
  have clusters : (drawn (Ledger.readAll ∅ [("a.go", nestedText)]).functions ∅).clusterIdentifiers =
      ["cluster_cluster", "cluster_web"] := by
    decide +kernel
  have nodes : (drawn (Ledger.readAll ∅ [("a.go", nestedText)]).functions ∅).nodeIdentifiers =
      ["cluster_web", "web_api"] := by
    decide +kernel
  refine ⟨_, ofFunctions_eq_drawn _ _, clusters, nodes, ?_⟩
  rw [clusters, nodes]
  decide

end Diagram

end ThreatModel
