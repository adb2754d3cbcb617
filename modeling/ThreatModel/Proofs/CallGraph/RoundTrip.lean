import ThreatModel.Proofs.CallGraph.Lines
import ThreatModel.Proofs.OrderedMap.Rows

/-!
Contract: call graphs that are written line by line and read again.

Owns:
- the calls of a graph in order, and the graph that they make again;
- the lines that are read as given calls, and the graph of such lines;
- that a legible graph is read off its lines, whatever their tags.

Does not own: the line of one call.
-/

namespace ThreatModel

open ThreatModel.Entry ThreatModel.Text

namespace CallGraph

/-! ## The calls of a graph -/

/-- The calls in the order of callers, then of callees, then of sites. -/
def edges (graph : CallGraph) : List Edge :=
  graph.entries.flatMap fun (caller, callees) =>
    callees.entries.flatMap fun (callee, sites) =>
      sites.map fun site => ⟨caller, callee, site⟩

/-- No caller goes without a callee, no callee without a site, and each call can be read off its
line. -/
structure Legible (graph : CallGraph) : Prop where
  callees : ∀ entry ∈ graph.entries, entry.2.entries ≠ []
  sites : ∀ entry ∈ graph.entries, ∀ inner ∈ entry.2.entries, inner.2 ≠ []
  edges : ∀ edge ∈ graph.edges, edge.Legible

theorem edges_eq_rows (graph : CallGraph) :
    graph.edges = (graph.rows (·.rows id)).map fun row => ⟨row.1, row.2.1, row.2.2⟩ := by
  simp only [edges, OrderedMap.rows, List.map_flatMap, List.map_map]
  rfl

/-- The calls of a graph make the graph. -/
theorem Legible.foldl_add
    {graph : CallGraph}
    (legible : graph.Legible) :
    graph.edges.foldl add ∅ = graph := by
  rw [edges_eq_rows, List.foldl_map]
  exact OrderedMap.collected_rows legible.callees legible.sites

/-! ## Lines of calls -/

/-- Lines that are read as calls add these calls. -/
theorem addLines_of_readLine
    {edges : List Edge}
    {lines : List String}
    (read : List.Forall₂ (fun edge line => readLine line = .ok (some edge)) edges lines)
    (graph : CallGraph) :
    graph.addLines lines = .ok (edges.foldl add graph) := by
  induction read generalizing graph with
  | nil => rfl
  | cons isRead _ inductionHypothesis =>
      rw [addLines, isRead]
      exact inductionHypothesis _

/-- A line of the call, under some tag. -/
def Edge.IsLine
    (edge : Edge)
    (line : String) :
    Prop :=
  ∃ tag, LegibleTag tag ∧ line = edge.line tag

/-- A legible graph is read off the lines of its calls: no tag leads astray, and callers, callees
and sites keep their order. -/
theorem ofLines_printed
    {graph : CallGraph}
    (legible : graph.Legible)
    {lines : List String}
    (printed : List.Forall₂ Edge.IsLine graph.edges lines) :
    ofLines lines = .ok graph := by
  have read :
      List.Forall₂ (fun edge line => readLine line = .ok (some edge)) graph.edges lines := by
    rw [List.forall₂_iff_zip] at printed ⊢
    refine ⟨printed.1, ?_⟩
    intro edge line paired
    obtain ⟨tag, legibleTag, rfl⟩ := printed.2 paired
    exact (legible.edges edge (List.of_mem_zip paired).1).readLine legibleTag
  rw [ofLines, addLines_of_readLine read, legible.foldl_add]

/-- A shop that pays by a function of its own; one of the names has a tab in it. -/
def shop : CallGraph where
  entries :=
    [("shop.pay", ⟨[("Bank\tAPI call", [⟨3, 7⟩, ⟨12, 1⟩]), ("Log", [⟨5, 2⟩])], by decide⟩),
      ("shop.run", ⟨[("shop.pay", [⟨9, 1⟩])], by decide⟩)]
  distinct := by decide

/-- A tag that looks like a site of its own is no matter. -/
theorem ofLines_shop :
    ofLines
      ["shop.pay\t--static-3:7-->\tBank\tAPI call",
        "shop.pay\t---3:4-->-12:1-->\tBank\tAPI call",
        "shop.pay\t--static-5:2-->\tLog",
        "shop.run\t--0-0:0-9:1-->\tshop.pay"] =
      .ok shop := by
  refine ofLines_printed ⟨by decide, by decide, by decide⟩
    (.cons ?_ (.cons ?_ (.cons ?_ (.cons ?_ .nil))))
  · exact ⟨"static", by decide, by decide⟩
  · exact ⟨"-3:4-->", by decide, by decide⟩
  · exact ⟨"static", by decide, by decide⟩
  · exact ⟨"0-0:0", by decide, by decide⟩

end CallGraph

end ThreatModel
