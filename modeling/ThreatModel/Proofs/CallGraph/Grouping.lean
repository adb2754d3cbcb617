import ThreatModel.Proofs.CallGraph.Shape
import ThreatModel.Proofs.OrderedMap.Growth

/-!
Contract: call graphs group the calls of their edge lines.

Owns:
- the edge lines among lines, the calls that they stand for, and which of them have
  numbers that are not read;
- the graph of a list of calls: its callers, callees and sites, and their order;
- the merging of graphs, pair by pair;
- the law of reading: when there is a fault, which graph there is otherwise, which
  lines do not count, and what the lines of two lists make together.

Does not own: how the parts of an edge line are found.
-/

namespace ThreatModel.CallGraph

open ThreatModel.Text

/-! ## Edge lines and their calls -/

namespace EdgeLine

/-- One of the two numbers has more digits than are read. -/
def Overlong (edge : EdgeLine) : Prop :=
  digitLimit < edge.lineDigits.length ∨ digitLimit < edge.columnDigits.length

/-- The call that an edge line stands for, between names without numbered suffixes. -/
def call (edge : EdgeLine) : Edge where
  caller := stripSuffix (String.ofList edge.caller)
  callee := stripSuffix (String.ofList edge.callee)
  site := ⟨decimalValue edge.lineDigits, decimalValue edge.columnDigits⟩

theorem number?_of_short
    {digits : List Char}
    (short : ¬digitLimit < digits.length) :
    number? digits = .ok (decimalValue digits) := by
  rw [number?, if_neg short]

theorem edge?_of_short
    {edge : EdgeLine}
    (short : ¬edge.Overlong) :
    edge.edge? = .ok edge.call := by
  rw [Overlong, not_or] at short
  rw [edge?, number?_of_short short.1, number?_of_short short.2]
  rfl

theorem edge?_of_overlong
    {edge : EdgeLine}
    (overlong : edge.Overlong) :
    ∃ fault, edge.edge? = .error fault := by
  by_cases longLine : digitLimit < edge.lineDigits.length
  · refine ⟨.tooManyDigits edge.lineDigits.length, ?_⟩
    rw [edge?, number?, if_pos longLine]
    rfl
  · have longColumn := overlong.resolve_left longLine
    refine ⟨.tooManyDigits edge.columnDigits.length, ?_⟩
    rw [edge?, number?_of_short longLine, number?, if_pos longColumn]
    rfl

/-- The calls of edge lines are read, or one of the lines is overlong. -/
theorem mapM_edge? (edges : List EdgeLine) :
    (edges.mapM edge? = .ok (edges.map call) ∧ ∀ edge ∈ edges, ¬edge.Overlong) ∨
      ∃ fault, edges.mapM edge? = .error fault ∧ ∃ edge ∈ edges, edge.Overlong := by
  induction edges with
  | nil => exact .inl ⟨rfl, List.forall_mem_nil _⟩
  | cons head rest inductionHypothesis =>
      rw [List.mapM_cons]
      by_cases overlong : head.Overlong
      · obtain ⟨fault, unread⟩ := edge?_of_overlong overlong
        rw [unread]
        exact .inr ⟨fault, rfl, head, List.mem_cons_self, overlong⟩
      rw [edge?_of_short overlong]
      rcases inductionHypothesis with ⟨read, short⟩ | ⟨fault, unread, edge, member, isLong⟩
      · rw [read]
        exact .inl ⟨rfl, List.forall_mem_cons.mpr ⟨overlong, short⟩⟩
      · rw [unread]
        exact .inr ⟨fault, rfl, edge, List.mem_cons_of_mem head member, isLong⟩

end EdgeLine

/-- The edge lines among lines. -/
def edgeLines (lines : List String) : List EdgeLine :=
  lines.filterMap fun line => edgeLine? (dropLineEnd line.toList)

/-- Lines cut in their order: each into the parts of its least fit, unless it has no fit. -/
inductive Shaped : (lines : List String) → (edges : List EdgeLine) → Prop where
  | nil : Shaped [] []
  | edge {line : String} {tag : List Char} {edge : EdgeLine} {rest : List String}
      {edges : List EdgeLine}
      (least : EdgeLine.FitsLeast (dropLineEnd line.toList) tag edge)
      (later : Shaped rest edges) :
      Shaped (line :: rest) (edge :: edges)
  | other {line : String} {rest : List String} {edges : List EdgeLine}
      (unfit : ∀ tag edge, ¬EdgeLine.Fits (dropLineEnd line.toList) tag edge)
      (later : Shaped rest edges) :
      Shaped (line :: rest) edges

theorem shaped_edgeLines (lines : List String) : Shaped lines (edgeLines lines) := by
  induction lines with
  | nil => exact .nil
  | cons line rest inductionHypothesis =>
      rw [edgeLines, List.filterMap_cons]
      cases reads : edgeLine? (dropLineEnd line.toList) with
      | none => exact .other (EdgeLine.edgeLine?_eq_none_iff.mp reads) inductionHypothesis
      | some edge =>
          obtain ⟨tag, least⟩ := EdgeLine.edgeLine?_eq_some_iff.mp reads
          exact .edge least inductionHypothesis

/-- All that counts of the lines is the calls of the edge lines among them. -/
theorem addLines_eq
    (graph : CallGraph)
    (lines : List String) :
    graph.addLines lines =
      ((edgeLines lines).mapM EdgeLine.edge?).map fun edges => edges.foldl add graph := by
  induction lines generalizing graph with
  | nil => rfl
  | cons line rest inductionHypothesis =>
      rw [addLines, readLine, edgeLines, List.filterMap_cons]
      cases edgeLine? (dropLineEnd line.toList) with
      | none => exact inductionHypothesis graph
      | some edge =>
          dsimp only
          rw [List.mapM_cons]
          cases edge.edge? with
          | error fault => rfl
          | ok call =>
              refine (inductionHypothesis (graph.add call)).trans ?_
              unfold edgeLines
              cases (rest.filterMap fun line => edgeLine? (dropLineEnd line.toList)).mapM
                EdgeLine.edge? <;> rfl

/-! ## The graph of calls -/

/-- The graph that a list of calls makes. -/
def ofCalls (calls : List Edge) : CallGraph :=
  calls.foldl add ∅

/-- For each pair of names there are the sites of its calls, in their order, and there is nothing
where no call is. Callers, and the callees of each, come in the order of their first calls. -/
structure Groups (graph : CallGraph) (calls : List Edge) : Prop where
  sites : ∀ caller callee,
    (graph.get? caller).bind (·.get? callee) =
      inhabited? ((calls.filter fun call => call.caller = caller ∧ call.callee = callee).map
        Edge.site)
  callers : graph.keys = (calls.map Edge.caller).eraseDups
  callees : ∀ caller,
    (graph.get? caller).map OrderedMap.keys =
      inhabited? ((calls.filter fun call => call.caller = caller).map Edge.callee).eraseDups

theorem ofCalls_eq_collected (calls : List Edge) :
    ofCalls calls =
      OrderedMap.collected (calls.map fun call => (call.caller, call.callee, call.site)) := by
  rw [OrderedMap.collected, List.foldl_map]
  rfl

theorem groups_ofCalls (calls : List Edge) : (ofCalls calls).Groups calls where
  sites caller callee := by
    rw [ofCalls_eq_collected, OrderedMap.get?_get?_collected]
    simp only [OrderedMap.entriesUnder, List.filter_map, List.map_map, List.filter_filter,
      Function.comp_def, Bool.decide_and, Bool.and_comm]
  callers := by
    rw [ofCalls_eq_collected, OrderedMap.keys_collected, List.map_map]
    rfl
  callees caller := by
    rw [ofCalls_eq_collected, OrderedMap.keys_get?_collected, OrderedMap.entriesUnder,
      List.filter_map, List.map_map, List.map_map]
    rfl

/-! ## Merging -/

/-- Puts the sites of each callee behind the sites that are there. -/
def mergeCallees (callees others : Callees) : Callees :=
  callees.mergeWith (fun known sites => known.getD [] ++ sites) others

/-- Puts the calls of another graph into a graph, pair by pair: the sites of a pair come behind the
sites that are there, new callees behind those of their caller, and new callers behind all. -/
def merge (graph other : CallGraph) : CallGraph :=
  graph.mergeWith (fun known callees => mergeCallees (known.getD ∅) callees) other

theorem merge_empty (graph : CallGraph) : graph.merge ∅ = graph :=
  rfl

/-- A call that is added to the other graph is a call that is added to both. -/
theorem merge_add
    (graph other : CallGraph)
    (call : Edge) :
    graph.merge (other.add call) = (graph.merge other).add call := by
  have addSite (callees others : Callees) :
      mergeCallees callees (others.alter call.callee fun sites => sites.getD [] ++ [call.site]) =
        (mergeCallees callees others).alter call.callee fun sites =>
          sites.getD [] ++ [call.site] := by
    refine OrderedMap.mergeWith_alter _ ?_ callees others call.callee
    intro known sites
    cases sites with
    | none => rfl
    | some sites => exact (List.append_assoc _ _ _).symm
  refine OrderedMap.mergeWith_alter _ ?_ graph other call.caller
  intro known others
  cases others with
  | none => exact addSite (known.getD ∅) ∅
  | some others => exact addSite (known.getD ∅) others

theorem merge_ofCalls
    (graph : CallGraph)
    (calls : List Edge) :
    graph.merge (ofCalls calls) = calls.foldl add graph := by
  have merged (other : CallGraph) :
      graph.merge (calls.foldl add other) = calls.foldl add (graph.merge other) := by
    induction calls generalizing other with
    | nil => rfl
    | cons call rest inductionHypothesis =>
        rw [List.foldl_cons, inductionHypothesis, merge_add, List.foldl_cons]
  rw [ofCalls, merged, merge_empty]

/-! ## The law of reading -/

theorem ofLines_eq (lines : List String) :
    ofLines lines = ((edgeLines lines).mapM EdgeLine.edge?).map ofCalls :=
  addLines_eq ∅ lines

theorem ofLines_of_short
    {lines : List String}
    (short : ∀ edge ∈ edgeLines lines, ¬edge.Overlong) :
    ofLines lines = .ok (ofCalls ((edgeLines lines).map EdgeLine.call)) := by
  rw [ofLines_eq]
  rcases EdgeLine.mapM_edge? (edgeLines lines) with ⟨read, _⟩ | ⟨_, _, edge, member, overlong⟩
  · rw [read]
    rfl
  · exact absurd overlong (short edge member)

theorem exists_fault_iff {lines : List String} :
    (∃ fault, ofLines lines = .error fault) ↔ ∃ edge ∈ edgeLines lines, edge.Overlong := by
  rcases EdgeLine.mapM_edge? (edgeLines lines) with ⟨_, short⟩ | ⟨fault, unread, isOverlong⟩
  · constructor
    · rintro ⟨fault, faulty⟩
      rw [ofLines_of_short short] at faulty
      cases faulty
    · rintro ⟨edge, member, overlong⟩
      exact absurd overlong (short edge member)
  · refine ⟨fun _ => isOverlong, fun _ => ⟨fault, ?_⟩⟩
    rw [ofLines_eq, unread]
    rfl

/-- A graph is read unless one of the edge lines has a number of too many digits; it groups the
calls of the edge lines. Other lines change nothing, and the lines of two lists make the graph of
the first, into which that of the second is merged. -/
theorem ofLines_groups (lines : List String) :
    (∃ edges, Shaped lines edges ∧
      ((∃ fault, ofLines lines = .error fault) ↔ ∃ edge ∈ edges, edge.Overlong) ∧
      ((∀ edge ∈ edges, ¬edge.Overlong) →
        ∃ graph, ofLines lines = .ok graph ∧ graph.Groups (edges.map EdgeLine.call))) ∧
      (∀ line more,
        (∀ tag edge, ¬EdgeLine.Fits (dropLineEnd line.toList) tag edge) →
          ofLines (lines ++ line :: more) = ofLines (lines ++ more)) ∧
      ∀ more,
        ofLines (lines ++ more) = do
          let graph ← ofLines lines
          let other ← ofLines more
          return graph.merge other := by
  refine ⟨⟨edgeLines lines, shaped_edgeLines lines, exists_fault_iff, ?_⟩, ?_, ?_⟩
  · intro short
    exact ⟨_, ofLines_of_short short, groups_ofCalls _⟩
  · intro line more unfit
    have unread := EdgeLine.edgeLine?_eq_none_iff.mpr unfit
    have sameEdges : edgeLines (lines ++ line :: more) = edgeLines (lines ++ more) := by
      simp only [edgeLines, List.filterMap_append, List.filterMap_cons, unread]
    rw [ofLines_eq, ofLines_eq, sameEdges]
  · intro more
    have parted : edgeLines (lines ++ more) = edgeLines lines ++ edgeLines more :=
      List.filterMap_append
    rw [ofLines_eq, ofLines_eq, ofLines_eq, parted, List.mapM_append]
    cases (edgeLines lines).mapM EdgeLine.edge? with
    | error fault => rfl
    | ok calls =>
        cases (edgeLines more).mapM EdgeLine.edge? with
        | error fault => rfl
        | ok others =>
            change Except.ok (ofCalls (calls ++ others)) =
              Except.ok ((ofCalls calls).merge (ofCalls others))
            rw [merge_ofCalls, ofCalls, List.foldl_append]
            rfl

/-- Two closures of one function call another one. -/
def closureLines : List String :=
  ["run\t--static-1:1-->\tpay", "run$1\t--dynamic-5:9-->\tpay$2"]

/-- The calls of closures stand under one pair of names, and a line that is no edge line does not
count. -/
theorem closureLines_grouped :
    (∃ edges, Shaped closureLines edges ∧ (∀ edge ∈ edges, ¬edge.Overlong) ∧
      ∃ graph, ofLines closureLines = .ok graph ∧ graph.Groups (edges.map EdgeLine.call) ∧
        (graph.get? "run").bind (·.get? "pay") = some [⟨1, 1⟩, ⟨5, 9⟩]) ∧
      (∀ tag edge, ¬EdgeLine.Fits (dropLineEnd "run --static-1:1--> pay".toList) tag edge) ∧
      ofLines (closureLines ++ ["run --static-1:1--> pay", "log\t--static-2:3-->\trun"]) =
        ofLines (closureLines ++ ["log\t--static-2:3-->\trun"]) := by
  obtain ⟨⟨edges, shaped, faulty, grouped⟩, unchanged, _⟩ := ofLines_groups closureLines
  have read : ofLines closureLines =
      .ok (ofCalls [⟨"run", "pay", ⟨1, 1⟩⟩, ⟨"run", "pay", ⟨5, 9⟩⟩]) := by
    decide +kernel
  have short : ∀ edge ∈ edges, ¬edge.Overlong := by
    intro edge member overlong
    obtain ⟨fault, isFaulty⟩ := faulty.mpr ⟨edge, member, overlong⟩
    rw [read] at isFaulty
    cases isFaulty
  have unfit := EdgeLine.edgeLine?_eq_none_iff.mp
    (show edgeLine? (dropLineEnd "run --static-1:1--> pay".toList) = none by decide +kernel)
  obtain ⟨graph, isGraph, groups⟩ := grouped short
  obtain rfl := Except.ok.inj (read.symm.trans isGraph)
  exact ⟨⟨edges, shaped, short, _, isGraph, groups, by decide +kernel⟩, unfit,
    unchanged _ _ unfit⟩

end ThreatModel.CallGraph
