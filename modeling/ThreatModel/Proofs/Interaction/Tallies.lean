import Mathlib
import ThreatModel.Proofs.Interaction.Calls

/-!
Contract: the tallies of mitigations and exposures over a run of calls.

Owns:
- how often each declared function is visited;
- the tally of a key as a sum over the declared functions, each weighed by its
  visits;
- the independence of the tallies from all of a call graph but the calls between
  declared functions.

Does not own: the edges between components.
-/

namespace ThreatModel.Interaction

variable (functions : OrderedMap String Declaration) (graph : CallGraph)

/-- Once as a caller, and once for each declared caller that calls it. -/
def visitCount (name : String) : Nat :=
  (if graph.contains name then 1 else 0) + functions.keys.countP (graph.hasCall · name)

/-- How often all visits together meet a key. -/
def visitSum
    (keys : Declaration → List String)
    (key : String) :
    Nat :=
  (functions.entries.map fun function =>
    visitCount functions graph function.1 * (keys function.2).count key).sum

/-! ## The two tallies as accounts -/

/-- One of the two tallies, with the keys that a visit counts in it. -/
structure Tally where
  part : Interaction → OrderedMap String Int
  keys : Declaration → List String
  part_empty : part {} = ∅
  part_visit : ∀ interaction declaration,
    part (interaction.visit declaration) = (keys declaration).foldl OrderedMap.tally (part interaction)
  part_edges : ∀ (interaction : Interaction) edges, part { interaction with edges } = part interaction

def mitigationTally : Tally where
  part := Interaction.mitigations
  keys := Declaration.mitigationKeys
  part_empty := rfl
  part_visit _ _ := rfl
  part_edges _ _ := rfl

def exposureTally : Tally where
  part := Interaction.exposures
  keys := Declaration.exposureKeys
  part_empty := rfl
  part_visit _ _ := rfl
  part_edges _ _ := rfl

/-- A call counts what a visit of the callee counts. -/
def Tally.account (tally : Tally) : Account (OrderedMap String Int) String where
  part := tally.part
  enter := OrderedMap.tally
  ofVisit := tally.keys
  ofCall _ callee := tally.keys callee.2
  part_visit := tally.part_visit
  part_call interaction caller callee := by
    rw [call, foldl_link, tally.part_edges, tally.part_visit]

/-! ## The sum over declared functions -/

private theorem sum_map_filter
    {β : Type}
    (keep : β → Bool)
    (value : β → Nat)
    (elements : List β) :
    ((elements.filter keep).map value).sum =
      (elements.map fun element => (if keep element then 1 else 0) * value element).sum := by
  induction elements with
  | nil => rfl
  | cons head rest inductionHypothesis =>
      rw [List.filter_cons]
      by_cases kept : keep head = true
      · simp [kept, inductionHypothesis]
      · simp [kept, inductionHypothesis]

/-- Summing over the callees of each caller weighs every function by its number of callers. -/
private theorem sum_map_sum_filter
    {α β : Type}
    (related : α → β → Bool)
    (value : β → Nat)
    (callers : List α)
    (elements : List β) :
    (callers.map fun caller => ((elements.filter (related caller)).map value).sum).sum =
      (elements.map fun element =>
        callers.countP (related · element) * value element).sum := by
  induction callers with
  | nil => simp
  | cons caller rest inductionHypothesis =>
      rw [List.map_cons, List.sum_cons, inductionHypothesis, sum_map_filter, ← List.sum_map_add]
      congr 1
      apply List.map_congr_left
      intro element _
      rw [List.countP_cons, ← Nat.add_mul, Nat.add_comm]

variable (tally : Tally)

private theorem count_ofCaller
    (caller : String × Declaration)
    (key : String) :
    (tally.account.ofCaller functions graph caller).count key =
      (if graph.contains caller.1 then 1 else 0) * (tally.keys caller.2).count key +
        ((functions.entries.filter fun function => graph.hasCall caller.1 function.1).map
          fun function => (tally.keys function.2).count key).sum := by
  have calleeSum :
      ((callees functions graph caller.1).flatMap fun callee => tally.keys callee.2).count key =
        ((functions.entries.filter fun function => graph.hasCall caller.1 function.1).map
          fun function => (tally.keys function.2).count key).sum := by
    rw [List.count_flatMap]
    exact ((callees_perm functions graph caller.1).map _).sum_eq
  rw [← calleeSum]
  unfold Account.ofCaller
  split
  · rw [one_mul]
    exact List.count_append
  · rename_i noCaller
    rw [callees_eq_nil functions graph noCaller]
    simp

/-- Over a run of calls, a tally meets a key as often as the visits do. -/
theorem count_entries (key : String) :
    (tally.account.entries functions graph).count key =
      visitSum functions graph tally.keys key := by
  rw [Account.entries, List.count_flatMap]
  simp only [Function.comp_def, count_ofCaller]
  rw [List.sum_map_add, sum_map_sum_filter, ← List.sum_map_add, visitSum]
  congr 1
  apply List.map_congr_left
  intro function _
  rw [visitCount, Nat.add_mul, OrderedMap.keys, List.countP_map]
  rfl

/-- A key has a tally just when a visit meets it. -/
theorem get?_tally (key : String) :
    (tally.part (ofCalls functions graph)).get? key =
      if visitSum functions graph tally.keys key = 0 then none
      else some (visitSum functions graph tally.keys key : Int) := by
  have run : tally.part (ofCalls functions graph) =
      OrderedMap.counts (tally.account.entries functions graph) := by
    refine (tally.account.part_ofCalls functions graph).trans ?_
    rw [show tally.account.part {} = ∅ from tally.part_empty]
    rfl
  rw [run, OrderedMap.get?_counts, count_entries]

/-- An absent tally stands for zero. -/
theorem tally_total (key : String) :
    ((tally.part (ofCalls functions graph)).get? key).getD 0 =
        visitSum functions graph tally.keys key ∧
      (key ∈ (tally.part (ofCalls functions graph)).keys ↔
        0 < visitSum functions graph tally.keys key) := by
  have known : key ∈ (tally.part (ofCalls functions graph)).keys ↔
      (tally.part (ofCalls functions graph)).get? key ≠ none := by
    rw [ne_eq, OrderedMap.get?_eq_none_iff, not_not]
  rw [known, get?_tally]
  by_cases absent : visitSum functions graph tally.keys key = 0
  · simp [absent]
  · simp [absent, Nat.pos_of_ne_zero absent]

/-! ## Visited functions -/

/-- A function is visited as a caller, or as a callee of a declared caller. -/
def Visited (name : String) : Prop :=
  graph.contains name = true ∨ ∃ caller ∈ functions.keys, graph.hasCall caller name = true

instance (name : String) : Decidable (Visited functions graph name) :=
  inferInstanceAs (Decidable (_ ∨ _))

/-- Whether some visited function states a key. -/
def VisitStates
    (keys : Declaration → List String)
    (key : String) :
    Prop :=
  ∃ function ∈ functions.entries, Visited functions graph function.1 ∧ key ∈ keys function.2

instance (keys : Declaration → List String) (key : String) :
    Decidable (VisitStates functions graph keys key) :=
  inferInstanceAs (Decidable (∃ _ ∈ _, _))

theorem visitCount_pos_iff {name : String} :
    0 < visitCount functions graph name ↔ Visited functions graph name := by
  unfold visitCount Visited
  rw [Nat.add_pos_iff_pos_or_pos, List.countP_pos_iff]
  by_cases isCaller : graph.contains name = true
  · simp [isCaller]
  · simp [isCaller]

theorem visitSum_pos_iff
    {keys : Declaration → List String}
    {key : String} :
    0 < visitSum functions graph keys key ↔ VisitStates functions graph keys key := by
  unfold visitSum VisitStates
  rw [List.sum_pos_iff_exists_pos_nat]
  constructor
  · rintro ⟨_, member, positive⟩
    obtain ⟨function, declared, rfl⟩ := List.mem_map.mp member
    have visits := Nat.pos_of_mul_pos_right positive
    have occurrences := Nat.pos_of_mul_pos_left positive
    exact ⟨function, declared, (visitCount_pos_iff functions graph).mp visits,
      List.count_pos_iff.mp occurrences⟩
  · rintro ⟨function, declared, visited, stated⟩
    have visits := (visitCount_pos_iff functions graph).mpr visited
    have occurrences := List.count_pos_iff.mpr stated
    exact ⟨_, List.mem_map_of_mem declared, Nat.mul_pos visits occurrences⟩

/-- A tally is positive just when some visited function states its key. -/
theorem tally_pos_iff (key : String) :
    0 < ((tally.part (ofCalls functions graph)).get? key).getD 0 ↔
      VisitStates functions graph tally.keys key := by
  rw [(tally_total functions graph tally key).1, ← visitSum_pos_iff]
  exact Int.natCast_pos

/-! ## What the tallies depend on -/

/-- Two call graphs with the same callers and calls among the declared functions. -/
structure SameCalls (left right : CallGraph) : Prop where
  callers : ∀ name ∈ functions.keys, left.contains name = right.contains name
  calls : ∀ caller ∈ functions.keys, ∀ callee ∈ functions.keys,
    left.hasCall caller callee = right.hasCall caller callee

theorem visitSum_congr
    {functions : OrderedMap String Declaration}
    {left right : CallGraph}
    (same : SameCalls functions left right)
    (keys : Declaration → List String)
    (key : String) :
    visitSum functions left keys key = visitSum functions right keys key := by
  unfold visitSum
  congr 1
  apply List.map_congr_left
  intro function member
  have declared : function.1 ∈ functions.keys := List.mem_map_of_mem member
  have sameCount : visitCount functions left function.1 = visitCount functions right function.1 := by
    unfold visitCount
    rw [same.callers function.1 declared]
    congr 1
    apply List.countP_congr
    intro caller callerDeclared
    rw [same.calls caller callerDeclared function.1 declared]
  rw [sameCount]

theorem get?_tally_congr
    {functions : OrderedMap String Declaration}
    {left right : CallGraph}
    (same : SameCalls functions left right)
    (tally : Tally)
    (key : String) :
    (tally.part (ofCalls functions left)).get? key =
      (tally.part (ofCalls functions right)).get? key := by
  rw [get?_tally, get?_tally, visitSum_congr same]

/-- A declared caller is visited once as such, whatever it calls; a call of itself is another
visit. -/
theorem visitCount_eq_one_add
    {functions : OrderedMap String Declaration}
    {graph : CallGraph}
    {name : String}
    (declared : name ∈ functions.keys)
    (isCaller : graph.contains name = true) :
    visitCount functions graph name =
      1 + (if graph.hasCall name name then 1 else 0) +
        (functions.keys.filter (· ≠ name)).countP (graph.hasCall · name) := by
  have alone : functions.keys.filter (· = name) = [name] := by
    rw [List.filter_eq, List.count_eq_one_of_mem functions.keys_nodup declared]
    rfl
  have split := List.countP_eq_countP_filter_add functions.keys (graph.hasCall · name) (· = name)
  rw [alone] at split
  rw [visitCount, if_pos isCaller, split, List.countP_singleton, Nat.add_assoc]
  simp

/-- Every tally is the sum of what the declared functions state, each weighed by its visits, and
only keys with a positive sum have one. Nothing of the call graph counts but which declared
functions are callers and which of them they call. -/
theorem tallies_eq_visitSum :
    (∀ key,
      ((ofCalls functions graph).mitigations.get? key).getD 0 =
          visitSum functions graph Declaration.mitigationKeys key ∧
        (key ∈ (ofCalls functions graph).mitigations.keys ↔
          0 < visitSum functions graph Declaration.mitigationKeys key) ∧
        ((ofCalls functions graph).exposures.get? key).getD 0 =
          visitSum functions graph Declaration.exposureKeys key ∧
        (key ∈ (ofCalls functions graph).exposures.keys ↔
          0 < visitSum functions graph Declaration.exposureKeys key)) ∧
      (∀ other, SameCalls functions graph other → ∀ key,
        (ofCalls functions other).mitigations.get? key =
            (ofCalls functions graph).mitigations.get? key ∧
          (ofCalls functions other).exposures.get? key =
            (ofCalls functions graph).exposures.get? key) ∧
      (∀ name ∈ functions.keys, graph.contains name = true →
        visitCount functions graph name =
          1 + (if graph.hasCall name name then 1 else 0) +
            (functions.keys.filter (· ≠ name)).countP (graph.hasCall · name)) := by
  refine ⟨fun key => ?_, fun other same key => ?_, fun name => visitCount_eq_one_add⟩
  · obtain ⟨mitigationTotal, mitigationKnown⟩ := tally_total functions graph mitigationTally key
    obtain ⟨exposureTotal, exposureKnown⟩ := tally_total functions graph exposureTally key
    exact ⟨mitigationTotal, mitigationKnown, exposureTotal, exposureKnown⟩
  · have mitigated := get?_tally_congr same mitigationTally key
    have exposed := get?_tally_congr same exposureTally key
    exact ⟨mitigated.symm, exposed.symm⟩

/-- One function that calls itself, and one that calls nothing declared. -/
def walkers : OrderedMap String Declaration :=
  .ofList
    [("walk",
        { model := "files", function := "walk", raw := ""
          mitigations := [⟨⟨"FS", "Tree"⟩, "loops", "a depth limit", none, ""⟩] }),
      ("open",
        { model := "files", function := "open", raw := ""
          exposures := [⟨⟨"FS", "Tree"⟩, "races", "no lock", none, ""⟩] })]

def walkerCalls (sites : List CallSite) (undeclared : String) : CallGraph :=
  .ofList
    [("walk", .ofList [("walk", sites), (undeclared, sites)]),
      ("open", .ofList [(undeclared, sites)])]

theorem tallies_of_walkers :
    SameCalls walkers (walkerCalls [⟨3, 1⟩] "read") (walkerCalls [⟨3, 1⟩, ⟨4, 1⟩] "stat") ∧
      (ofCalls walkers (walkerCalls [⟨3, 1⟩, ⟨4, 1⟩] "stat")).mitigations.get? "fs-tree" =
        (ofCalls walkers (walkerCalls [⟨3, 1⟩] "read")).mitigations.get? "fs-tree" ∧
      ("walk" ∈ walkers.keys ∧ (walkerCalls [⟨3, 1⟩] "read").contains "walk" = true ∧
        visitCount walkers (walkerCalls [⟨3, 1⟩] "read") "walk" = 2) ∧
      ("open" ∈ walkers.keys ∧ (walkerCalls [⟨3, 1⟩] "read").contains "open" = true ∧
        visitCount walkers (walkerCalls [⟨3, 1⟩] "read") "open" = 1) := by
  have same : SameCalls walkers (walkerCalls [⟨3, 1⟩] "read")
      (walkerCalls [⟨3, 1⟩, ⟨4, 1⟩] "stat") := ⟨by decide, by decide⟩
  obtain ⟨_, independent, visits⟩ := tallies_eq_visitSum walkers (walkerCalls [⟨3, 1⟩] "read")
  exact ⟨same, (independent _ same "fs-tree").1,
    ⟨by decide, by decide, (visits "walk" (by decide) (by decide)).trans (by decide)⟩,
    ⟨by decide, by decide, (visits "open" (by decide) (by decide)).trans (by decide)⟩⟩

end ThreatModel.Interaction
