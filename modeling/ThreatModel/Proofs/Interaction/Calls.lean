import Mathlib.Data.List.Nodup
import ThreatModel.Proofs.OrderedMap.Collect
import ThreatModel.Risk.Interaction

/-!
Contract: the calls between declared functions, and what a run over them leaves behind.

Owns:
- the declared callees of a caller, as a list and as a relation;
- accounts: parts of an interaction that grow by entries of their own with each
  visit and each call;
- the run lemma: after all calls, an account holds the entries of every declared
  caller, in order.

Does not own: which entries the edges and tallies consist of.
-/

namespace ThreatModel

/-- Whether the call graph knows a call, however many sites it has. -/
def CallGraph.hasCall
    (graph : CallGraph)
    (caller callee : String) :
    Bool :=
  (graph.get? caller).any (·.contains callee)

namespace Interaction

variable (functions : OrderedMap String Declaration) (graph : CallGraph)

/-- The declared functions among the names. -/
def declared (names : List String) : List (String × Declaration) :=
  names.filterMap fun name => (functions.get? name).map (name, ·)

/-- The declared functions that a function calls, each once, in the order of the call graph. -/
def callees (caller : String) : List (String × Declaration) :=
  declared functions ((graph.get? caller).getD ∅).keys

/-! ## Callees as a relation -/

theorem mem_declared
    {names : List String}
    {function : String × Declaration} :
    function ∈ declared functions names ↔
      function.1 ∈ names ∧ function ∈ functions.entries := by
  obtain ⟨name, declaration⟩ := function
  simp only [declared, List.mem_filterMap, Option.map_eq_some_iff, Prod.mk.injEq,
    OrderedMap.get?_eq_some_iff]
  constructor
  · rintro ⟨_, known, _, entry, rfl, rfl⟩
    exact ⟨known, entry⟩
  · rintro ⟨known, entry⟩
    exact ⟨name, known, declaration, entry, rfl, rfl⟩

theorem hasCall_iff_mem_keys
    {graph : CallGraph}
    {caller callee : String} :
    graph.hasCall caller callee = true ↔ callee ∈ ((graph.get? caller).getD ∅).keys := by
  unfold CallGraph.hasCall
  cases graph.get? caller with
  | none => simp
  | some known => exact OrderedMap.contains_iff

theorem mem_callees
    {caller : String}
    {function : String × Declaration} :
    function ∈ callees functions graph caller ↔
      graph.hasCall caller function.1 = true ∧ function ∈ functions.entries := by
  rw [callees, mem_declared, hasCall_iff_mem_keys]

/-- A function that is no caller calls nothing. -/
theorem callees_eq_nil
    {caller : String}
    (noCaller : ¬graph.contains caller = true) :
    callees functions graph caller = [] := by
  unfold OrderedMap.contains at noCaller
  rw [callees, Option.not_isSome_iff_eq_none.mp noCaller]
  rfl

theorem nodup_entries : functions.entries.Nodup :=
  List.Nodup.of_map Prod.fst functions.distinct

private theorem map_fst_declared_sublist (names : List String) :
    ((declared functions names).map Prod.fst).Sublist names := by
  induction names with
  | nil => exact List.Sublist.slnil
  | cons name rest inductionHypothesis =>
      rw [declared, List.filterMap_cons]
      cases functions.get? name with
      | none => exact inductionHypothesis.cons name
      | some declaration => exact inductionHypothesis.cons_cons name

theorem callees_nodup (caller : String) : (callees functions graph caller).Nodup :=
  List.Nodup.of_map Prod.fst
    ((map_fst_declared_sublist functions _).nodup (OrderedMap.keys_nodup _))

/-- Up to their order, the callees are the declared functions that are called. -/
theorem callees_perm (caller : String) :
    (callees functions graph caller).Perm
      (functions.entries.filter fun function => graph.hasCall caller function.1) := by
  rw [List.perm_ext_iff_of_nodup (callees_nodup functions graph caller)
    ((nodup_entries functions).filter _)]
  intro function
  rw [mem_callees, List.mem_filter, and_comm]

/-! ## Accounts -/

/-- A part of an interaction to which each visit and each call adds entries. -/
structure Account (σ α : Type) where
  part : Interaction → σ
  enter : σ → α → σ
  ofVisit : Declaration → List α
  ofCall : (caller : Declaration) → (callee : String × Declaration) → List α
  part_visit : ∀ interaction declaration,
    part (interaction.visit declaration) = (ofVisit declaration).foldl enter (part interaction)
  part_call : ∀ (interaction : Interaction) caller callee,
    part (interaction.call caller callee.1 callee.2) =
      (ofCall caller callee).foldl enter (part interaction)

namespace Account

variable {σ α : Type} (account : Account σ α)

/-- The entries of one declared function and its calls; a function that is no caller has none. -/
def ofCaller (caller : String × Declaration) : List α :=
  if graph.contains caller.1 then
    account.ofVisit caller.2 ++
      (callees functions graph caller.1).flatMap (account.ofCall caller.2)
  else []

/-- The entries of all declared functions, in order. -/
def entries : List α :=
  functions.entries.flatMap (account.ofCaller functions graph)

theorem part_callAll
    (interaction : Interaction)
    (caller : Declaration)
    (names : List String) :
    account.part (interaction.callAll functions caller names) =
      ((declared functions names).flatMap (account.ofCall caller)).foldl account.enter
        (account.part interaction) := by
  induction names generalizing interaction with
  | nil => rfl
  | cons name rest inductionHypothesis =>
      unfold callAll declared at inductionHypothesis ⊢
      rw [List.foldl_cons, inductionHypothesis, List.filterMap_cons]
      cases functions.get? name with
      | none => rfl
      | some callee =>
          simp only [Option.map_some, List.flatMap_cons, List.foldl_append]
          rw [account.part_call interaction caller (name, callee)]

theorem part_addCaller
    (interaction : Interaction)
    (caller : String × Declaration) :
    account.part (addCaller functions graph interaction caller) =
      (account.ofCaller functions graph caller).foldl account.enter
        (account.part interaction) := by
  unfold addCaller ofCaller callees OrderedMap.contains
  cases graph.get? caller.1 with
  | none => rfl
  | some known =>
      simp only [Option.isSome_some, if_true, List.foldl_append, Option.getD_some]
      rw [part_callAll, account.part_visit]

/-- After a run an account holds the entries of every declared function. -/
theorem part_ofCalls :
    account.part (ofCalls functions graph) =
      (account.entries functions graph).foldl account.enter (account.part {}) := by
  have run (callers : List (String × Declaration)) (interaction : Interaction) :
      account.part (callers.foldl (addCaller functions graph) interaction) =
        (callers.flatMap (account.ofCaller functions graph)).foldl account.enter
          (account.part interaction) := by
    induction callers generalizing interaction with
    | nil => rfl
    | cons caller rest inductionHypothesis =>
        rw [List.foldl_cons, inductionHypothesis, part_addCaller, List.flatMap_cons,
          List.foldl_append]
  exact run functions.entries {}

end Account

/-- Links change nothing but the edges. -/
theorem foldl_link
    (interaction : Interaction)
    (contribution : Contribution)
    (ends : List (String × String)) :
    ends.foldl (·.link contribution) interaction =
      { interaction with
        edges := (ends.map fun pair => (pair.1, pair.2, contribution)).foldl OrderedMap.putUnder
          interaction.edges } := by
  induction ends generalizing interaction with
  | nil => rfl
  | cons head rest inductionHypothesis =>
      rw [List.foldl_cons, inductionHypothesis]
      rfl

end Interaction

end ThreatModel
