import Mathlib.Algebra.GroupWithZero.Nat
import Mathlib.Data.List.Perm.Basic
import ThreatModel.Proofs.Analysis.Grouping

/-!
Contract: the findings that an index lists are those that declared functions state.

Owns:
- the kinds of findings, as declarations state them and as threats list them;
- that grouping by distinct keys loses no element and doubles none;
- that the occurrences of an index are, but for their order, the findings of its
  functions.

Does not own: the order of components and threats.
-/

namespace ThreatModel

/-! ## Kinds -/

/-- What a threat lists: mitigations before exposures. -/
inductive FindingKind where
  | mitigation
  | exposure
deriving DecidableEq, Repr

namespace FindingKind

def all : List FindingKind :=
  [mitigation, exposure]

def stated : FindingKind → Declaration → List Finding
  | mitigation => Declaration.mitigations
  | exposure => Declaration.exposures

def listed : FindingKind → ThreatRecord → List Occurrence
  | mitigation => ThreatRecord.mitigations
  | exposure => ThreatRecord.exposures

theorem mem_append_of_mem_stated
    {kind : FindingKind}
    {declaration : Declaration}
    {finding : Finding}
    (states : finding ∈ kind.stated declaration) :
    finding ∈ declaration.mitigations ++ declaration.exposures := by
  cases kind with
  | mitigation => exact List.mem_append_left _ states
  | exposure => exact List.mem_append_right _ states

end FindingKind

/-! ## Groups -/

/-- The groups of elements by key, one for each of the keys. -/
theorem flatMap_filter_perm
    {α κ : Type}
    [DecidableEq κ]
    (keyOf : α → κ)
    {keys : List κ}
    (distinct : keys.Nodup)
    {list : List α}
    (covered : ∀ element ∈ list, keyOf element ∈ keys) :
    (keys.flatMap fun key => list.filter (keyOf · = key)).Perm list := by
  induction keys generalizing list with
  | nil =>
      have none : list = [] := List.eq_nil_iff_forall_not_mem.mpr fun element member =>
        List.not_mem_nil (covered element member)
      rw [none]
      exact .refl []
  | cons first rest inductionHypothesis =>
      obtain ⟨notLater, restDistinct⟩ := List.nodup_cons.mp distinct
      let others := list.filter fun element => !decide (keyOf element = first)
      have othersCovered : ∀ element ∈ others, keyOf element ∈ rest := by
        intro element member
        obtain ⟨isElement, differs⟩ := List.mem_filter.mp member
        exact (List.mem_cons.mp (covered element isElement)).resolve_left (by simpa using differs)
      -- No element of the first group is in a later one.
      have later : (rest.flatMap fun key => list.filter (keyOf · = key)) =
          rest.flatMap fun key => others.filter (keyOf · = key) := by
        apply List.flatMap_congr
        intro key isLater
        rw [List.filter_filter]
        refine List.filter_congr fun element _ => ?_
        by_cases isKey : keyOf element = key
        · have differs : key ≠ first := fun isFirst => notLater (isFirst ▸ isLater)
          simp [isKey, differs]
        · simp [isKey]
      rw [List.flatMap_cons, later]
      exact ((inductionHypothesis restDistinct othersCovered).append_left _).trans
        (List.filter_append_perm _ list)

/-! ## The findings of an index -/

namespace ComponentIndex

variable (functions : OrderedMap String Declaration) (kind : FindingKind)

/-- The findings of one kind, each with the occurrence that an index lists it as. -/
def statedFindings : List (Finding × Occurrence) :=
  functions.entries.flatMap fun (name, declaration) =>
    (kind.stated declaration).map fun finding =>
      (finding, finding.occurrence name declaration.definition)

theorem length_statedFindings :
    (statedFindings functions kind).length =
      (functions.values.map fun declaration => (kind.stated declaration).length).sum := by
  rw [statedFindings, List.length_flatMap, OrderedMap.values, List.map_map]
  simp only [List.length_map]
  rfl

theorem statedOccurrences_eq (key threat : String) :
    statedOccurrences functions kind.stated key threat =
      (((statedFindings functions kind).filter (·.1.component.key = key)).filter
        (·.1.threat = threat)).map Prod.snd := by
  rw [statedOccurrences, statedFindings, List.filter_filter, List.filter_flatMap, List.map_flatMap]
  congr 1
  funext entry
  rw [List.filter_map, List.map_map]
  simp only [Function.comp_def, Bool.decide_and, Bool.and_comm]
  rfl

theorem listed_threatRecordOf (key threat : String) :
    kind.listed (threatRecordOf functions key threat) =
      statedOccurrences functions kind.stated key threat := by
  cases kind <;> rfl

variable {functions kind}

theorem threat_mem_statedThreats
    {stated : Finding × Occurrence}
    (states : stated ∈ statedFindings functions kind) :
    stated.1.threat ∈ statedThreats functions stated.1.component.key := by
  obtain ⟨⟨name, declaration⟩, isFunction, isFinding⟩ := List.mem_flatMap.mp states
  obtain ⟨finding, member, rfl⟩ := List.mem_map.mp isFinding
  refine List.mem_flatMap.mpr ⟨(name, declaration), isFunction, ?_⟩
  refine List.mem_map.mpr ⟨finding, List.mem_filter.mpr ⟨?_, by simp⟩, rfl⟩
  exact FindingKind.mem_append_of_mem_stated member

theorem key_mem_keys
    {stated : Finding × Occurrence}
    (states : stated ∈ statedFindings functions kind) :
    stated.1.component.key ∈ (ofFunctions functions).keys := by
  obtain ⟨⟨name, declaration⟩, isFunction, isFinding⟩ := List.mem_flatMap.mp states
  obtain ⟨finding, member, rfl⟩ := List.mem_map.mp isFinding
  rw [mem_keys_ofFunctions]
  refine ⟨(name, declaration), isFunction, ?_⟩
  have among := FindingKind.mem_append_of_mem_stated member
  rw [Declaration.touched, List.mem_eraseDups, Declaration.mitigationKeys,
    Declaration.exposureKeys, ← List.map_append]
  exact List.mem_append_left _ (List.mem_map_of_mem among)

/-- The record of a component lists the findings about it. -/
theorem flatMap_listed_threats_perm
    {key : String}
    {record : ComponentRecord}
    (found : (ofFunctions functions).get? key = some record) :
    (record.threats.values.flatMap kind.listed).Perm
      (((statedFindings functions kind).filter (·.1.component.key = key)).map Prod.snd) := by
  have gathers := gathers_of_get? functions found
  have threats : record.threats.values =
      (statedThreats functions key).eraseDups.map (threatRecordOf functions key) := by
    rw [OrderedMap.values, gathers.threats_eq, List.map_map]
    rfl
  rw [threats, List.flatMap_map]
  simp only [listed_threatRecordOf, statedOccurrences_eq]
  rw [← List.map_flatMap]
  refine (flatMap_filter_perm (fun stated : Finding × Occurrence => stated.1.threat)
    (OrderedMap.nodup_eraseDups _) fun stated member => ?_).map Prod.snd
  obtain ⟨states, isKey⟩ := List.mem_filter.mp member
  rw [List.mem_eraseDups, ← of_decide_eq_true isKey]
  exact threat_mem_statedThreats states

variable (functions kind)

/-- Nothing that the functions state is lost, and nothing is listed twice. -/
theorem flatMap_listed_perm :
    ((ofFunctions functions).values.flatMap fun record =>
        record.threats.values.flatMap kind.listed).Perm
      ((statedFindings functions kind).map Prod.snd) := by
  have byKey :
      ((ofFunctions functions).entries.flatMap fun entry =>
          entry.2.threats.values.flatMap kind.listed).Perm
        ((ofFunctions functions).entries.flatMap fun entry =>
          ((statedFindings functions kind).filter (·.1.component.key = entry.1)).map Prod.snd) :=
    List.Perm.flatMap_left _ fun entry isEntry =>
      flatMap_listed_threats_perm (OrderedMap.get?_eq_some_iff.mpr isEntry)
  have all := (flatMap_filter_perm (fun stated : Finding × Occurrence => stated.1.component.key)
    (ofFunctions functions).keys_nodup
    fun stated (states : stated ∈ statedFindings functions kind) => key_mem_keys states).map Prod.snd
  rw [OrderedMap.values, List.flatMap_map]
  rw [OrderedMap.keys, List.flatMap_map, List.map_flatMap] at all
  exact byKey.trans all

end ComponentIndex

end ThreatModel
