import ThreatModel.Analysis.Basic
import ThreatModel.Proofs.Diagram.Order
import ThreatModel.Proofs.Ledger.Sources

/-!
Contract: the analysis of sources in whatever order they are read.

Owns: that coverage, declarations, orphans and, where no two sources declare one name,
the diagram do not depend on the order of sources, callers and callees.

Does not own: the labels of nodes and clusters, which are spelled as they come first.
-/

namespace ThreatModel

/-- The diagram of an analysed ledger along a call graph. -/
def Analysis.diagram
    (analysis : Analysis)
    (graph : CallGraph) :
    Except MissingKey Diagram :=
  Diagram.ofFunctions analysis.functions graph analysis.components

/-- The order of the sources changes neither coverage nor, but for their order, declarations and
orphans. Where no two sources declare one name, it changes no diagram either, nor does the order
of callers and callees: diagrams are the same up to order and to the labels of nodes and
clusters. -/
theorem Ledger.analyze_reordered
    {sources others : List Source}
    (reordered : sources.Perm others) :
    (ofSources sources).analyze.coverage = (ofSources others).analyze.coverage ∧
      (ofSources sources).declarations.Perm (ofSources others).declarations ∧
      (ofSources sources).analyze.orphans.Perm (ofSources others).analyze.orphans ∧
      (DeclareApart sources →
        ∀ graph other : CallGraph, graph.Reordered other →
          ∃ left right,
            (ofSources sources).analyze.diagram graph = .ok left ∧
              (ofSources others).analyze.diagram other = .ok right ∧
              left.Alike right) := by
  refine ⟨coverage_eq reordered, declarations_perm reordered, orphans_perm reordered, ?_⟩
  intro apart graph other sameCalls
  have sameFunctions := OrderedMap.perm_of_get?_eq (get?_functions_eq reordered apart)
  exact ⟨_, _, Diagram.ofFunctions_eq_drawn _ graph, Diagram.ofFunctions_eq_drawn _ other,
    Diagram.drawn_alike sameFunctions sameCalls⟩

/-- A till that pays into a vault; both spell the zone in their own way. -/
def tillAndVault : List Source :=
  [⟨"till.go",
      "// ThreatSpec shop for pay\n// Does payments for Shop:Till\n"⟩,
    ⟨"vault.go",
      "// ThreatSpec shop for store\n// Exposes SHOP:Vault to theft with one key\n"⟩]

def tillCalls : CallGraph :=
  .ofList
    [("pay", .ofList [("store", [⟨3, 1⟩]), ("log", [⟨4, 1⟩])]),
      ("store", .ofList [("log", [⟨9, 1⟩])])]

def reorderedTillCalls : CallGraph :=
  .ofList
    [("store", .ofList [("log", [⟨9, 1⟩])]),
      ("pay", .ofList [("log", [⟨4, 1⟩]), ("store", [⟨3, 1⟩])])]

/-- The vault may be read before the till. -/
theorem Ledger.tillAndVault_reordered :
    tillAndVault.Perm tillAndVault.reverse ∧
      DeclareApart tillAndVault ∧
      tillCalls.Reordered reorderedTillCalls ∧
      (ofSources tillAndVault).analyze.coverage =
        (ofSources tillAndVault.reverse).analyze.coverage ∧
      ∃ left right,
        (ofSources tillAndVault).analyze.diagram tillCalls = .ok left ∧
          (ofSources tillAndVault.reverse).analyze.diagram reorderedTillCalls = .ok right ∧
          left.Alike right := by
  have reordered : tillAndVault.Perm tillAndVault.reverse := tillAndVault.reverse_perm.symm
  have apart : DeclareApart tillAndVault := by decide +kernel
  have sameCalls : tillCalls.Reordered reorderedTillCalls := by
    refine ⟨by decide, ?_⟩
    refine List.forall_mem_cons.mpr ⟨⟨_, rfl, ?_⟩, List.forall_mem_cons.mpr ⟨⟨_, rfl, ?_⟩, ?_⟩⟩
    · decide
    · decide
    · exact List.forall_mem_nil _
  obtain ⟨covered, _, _, alike⟩ := analyze_reordered reordered
  exact ⟨reordered, apart, sameCalls, covered, alike apart _ _ sameCalls⟩

end ThreatModel
