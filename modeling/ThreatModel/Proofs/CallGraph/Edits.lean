import Mathlib.Logic.Relation
import ThreatModel.Diagram.Builder
import ThreatModel.Proofs.CallGraph.Grouping
import ThreatModel.Proofs.CallGraph.Names

/-!
Contract: what a diagram takes of the lines of a call graph.

Owns:
- that interactions and diagrams depend on the callees of each caller alone, and not
  on call sites or on the order of callers;
- edge lines as they are printed, and that they are read as what was printed;
- edits of lines: other tags and sites, further suffixes of names, and repetitions of
  known calls;
- that diagrams are the same after any number of edits.

Does not own: edge lines that only look like printed ones.
-/

namespace ThreatModel

open ThreatModel.Entry ThreatModel.Text

/-! ## The callees of callers -/

/-- Each caller has the same callees in the same order. -/
def CallGraph.SameCallees (graph other : CallGraph) : Prop :=
  ∀ caller, (graph.get? caller).map OrderedMap.keys = (other.get? caller).map OrderedMap.keys

section SameCallees

variable {graph other : CallGraph} (same : graph.SameCallees other)

include same

theorem Interaction.addCaller_congr
    (functions : OrderedMap String Declaration)
    (interaction : Interaction)
    (caller : String × Declaration) :
    addCaller functions graph interaction caller =
      addCaller functions other interaction caller := by
  have sameKeys := same caller.1
  unfold addCaller
  cases found : graph.get? caller.1 with
  | none =>
      rw [found, Option.map_none, eq_comm, Option.map_eq_none_iff] at sameKeys
      rw [sameKeys]
  | some callees =>
      rw [found, Option.map_some, eq_comm, Option.map_eq_some_iff] at sameKeys
      obtain ⟨others, otherFound, keys⟩ := sameKeys
      rw [otherFound]
      dsimp only
      rw [keys]

theorem Interaction.ofCalls_congr (functions : OrderedMap String Declaration) :
    ofCalls functions graph = ofCalls functions other :=
  List.foldl_ext _ _ _ fun interaction caller _ => addCaller_congr same functions interaction caller

theorem Diagram.ofFunctions_congr
    (functions : OrderedMap String Declaration)
    (index : ComponentIndex) :
    ofFunctions functions graph index = ofFunctions functions other index := by
  rw [ofFunctions, ofFunctions, Interaction.ofCalls_congr same]

end SameCallees

namespace CallGraph

/-! ## Printed edge lines -/

/-- An edge line as it is printed: caller and tag have no tab, the callee does not end in a blank,
and the numbers have no more digits than are read. -/
structure PrintedEdge extends EdgeLine where
  tag : List Char
  isCaller : IsField caller
  callerTabless : '\t' ∉ caller
  isTag : IsField tag
  tagTabless : '\t' ∉ tag
  isLine : IsRow lineDigits
  lineShort : lineDigits.length ≤ digitLimit
  isColumn : IsRow columnDigits
  columnShort : columnDigits.length ≤ digitLimit
  isCallee : IsField callee
  calleeInked : EndsInked callee

namespace PrintedEdge

variable (edge : PrintedEdge)

def line : String :=
  String.ofList (edge.caller ++ '\t' :: '-' :: '-' ::
    (edge.tag ++ (siteText edge.lineDigits edge.columnDigits ++ '\t' :: edge.callee)))

/-- The names that caller and callee have in the graph. -/
def names : String × String :=
  (edge.call.caller, edge.call.callee)

theorem short : ¬edge.Overlong :=
  not_or.mpr ⟨Nat.not_lt_of_le edge.lineShort, Nat.not_lt_of_le edge.columnShort⟩

theorem edgeLine?_line : edgeLine? (dropLineEnd edge.line.toList) = some edge.toEdgeLine := by
  rw [line, String.toList_ofList]
  exact edgeLine?_dropLineEnd edge.isCaller edge.callerTabless edge.isTag edge.tagTabless
    edge.isLine edge.isColumn edge.isCallee edge.calleeInked

theorem edgeLines_append (front back : List String) :
    edgeLines (front ++ edge.line :: back) =
      edgeLines front ++ edge.toEdgeLine :: edgeLines back := by
  rw [edgeLines, List.filterMap_append, List.filterMap_cons, edge.edgeLine?_line]
  rfl

/-! ## Further suffixes -/

theorem isField_append_suffix
    {name digits : List Char}
    (isField : IsField name)
    (isRow : IsRow digits) :
    IsField (name ++ '$' :: digits) where
  inhabited := List.append_ne_nil_of_left_ne_nil isField.inhabited _
  sameLine := by
    have notInDigits : '\n' ∉ digits := isRow.not_mem (by decide)
    simp [isField.sameLine, notInDigits]

/-- The edge with a further suffix at the caller. -/
def closeCaller
    {digits : List Char}
    (isRow : IsRow digits) :
    PrintedEdge :=
  { edge with
    caller := edge.caller ++ '$' :: digits
    isCaller := isField_append_suffix edge.isCaller isRow
    callerTabless := by
      have notInDigits : '\t' ∉ digits := isRow.not_mem (by decide)
      simp [edge.callerTabless, notInDigits] }

/-- The edge with a further suffix at the callee. -/
def closeCallee
    {digits : List Char}
    (isRow : IsRow digits) :
    PrintedEdge :=
  { edge with
    callee := edge.callee ++ '$' :: digits
    isCallee := isField_append_suffix edge.isCallee isRow
    calleeInked := by
      rw [List.append_cons]
      exact isRow.endsInked.append isRow.inhabited _ }

theorem names_closeCaller
    {digits : List Char}
    (isRow : IsRow digits) :
    (edge.closeCaller isRow).names = edge.names :=
  Prod.ext (stripSuffix_append_suffix edge.caller isRow) rfl

theorem names_closeCallee
    {digits : List Char}
    (isRow : IsRow digits) :
    (edge.closeCallee isRow).names = edge.names :=
  Prod.ext rfl (stripSuffix_append_suffix edge.callee isRow)

end PrintedEdge

/-! ## Edits -/

/-- The line is a printed edge line, or does not have the shape of an edge line at all. -/
def Plain (line : String) : Prop :=
  (∃ edge : PrintedEdge, line = edge.line) ∨
    ∀ tag edge, ¬EdgeLine.Fits (dropLineEnd line.toList) tag edge

/-- One edit of the lines of a call graph. -/
inductive Edit : (lines others : List String) → Prop where
  | resite {edge other : PrintedEdge} (front back : List String)
      (sameCaller : other.caller = edge.caller)
      (sameCallee : other.callee = edge.callee) :
      Edit (front ++ edge.line :: back) (front ++ other.line :: back)
  | closeCaller {edge : PrintedEdge} {digits : List Char} (front back : List String)
      (isRow : IsRow digits) :
      Edit (front ++ edge.line :: back) (front ++ (edge.closeCaller isRow).line :: back)
  | closeCallee {edge : PrintedEdge} {digits : List Char} (front back : List String)
      (isRow : IsRow digits) :
      Edit (front ++ edge.line :: back) (front ++ (edge.closeCallee isRow).line :: back)
  | again {edge known : PrintedEdge} (front back : List String)
      (isKnown : known.line ∈ front)
      (sameNames : edge.names = known.names) :
      Edit (front ++ back) (front ++ edge.line :: back)

/-- Either a printed edge line is put in place of another one between the same names, or behind
one. -/
theorem Edit.cases
    {lines others : List String}
    (edit : Edit lines others) :
    ∃ (front back : List String) (edge other : PrintedEdge),
      other.names = edge.names ∧ others = front ++ other.line :: back ∧
        (lines = front ++ edge.line :: back ∨ edge.line ∈ front ∧ lines = front ++ back) := by
  cases edit with
  | @resite edge other front back sameCaller sameCallee =>
      have sameNames : other.names = edge.names := by
        simp only [PrintedEdge.names, EdgeLine.call, sameCaller, sameCallee]
      exact ⟨front, back, edge, other, sameNames, rfl, .inl rfl⟩
  | @closeCaller edge _ front back isRow =>
      exact ⟨front, back, edge, _, edge.names_closeCaller isRow, rfl, .inl rfl⟩
  | @closeCallee edge _ front back isRow =>
      exact ⟨front, back, edge, _, edge.names_closeCallee isRow, rfl, .inl rfl⟩
  | @again edge known front back isKnown sameNames =>
      exact ⟨front, back, known, edge, sameNames, rfl, .inr ⟨isKnown, rfl⟩⟩

theorem Edit.plain
    {lines others : List String}
    (edit : Edit lines others)
    (plain : ∀ line ∈ lines, Plain line) :
    ∀ line ∈ others, Plain line := by
  obtain ⟨front, back, edge, other, _, rfl, rfl | ⟨_, rfl⟩⟩ := edit.cases
  · simp only [List.forall_mem_append, List.forall_mem_cons] at plain ⊢
    exact ⟨plain.1, .inl ⟨other, rfl⟩, plain.2.2⟩
  · simp only [List.forall_mem_append, List.forall_mem_cons] at plain ⊢
    exact ⟨plain.1, .inl ⟨other, rfl⟩, plain.2⟩

/-! ## The calls of edited lines -/

/-- The callees of a caller, each once, in the order of their first calls. -/
def calleesOf
    (caller : String)
    (calls : List Edge) :
    List String :=
  ((calls.filter fun call => call.caller = caller).map Edge.callee).eraseDups

theorem calleesOf_append_cons_congr
    (caller : String)
    (front back : List Edge)
    {call other : Edge}
    (sameCaller : other.caller = call.caller)
    (sameCallee : other.callee = call.callee) :
    calleesOf caller (front ++ other :: back) = calleesOf caller (front ++ call :: back) := by
  simp only [calleesOf, List.filter_append, List.filter_cons, sameCaller]
  split
  · simp only [List.map_append, List.map_cons, sameCallee]
  · rfl

/-- A call between known names is no new callee. -/
theorem calleesOf_append_cons_of_mem
    (caller : String)
    {front : List Edge}
    (back : List Edge)
    {call known : Edge}
    (isKnown : known ∈ front)
    (sameCaller : call.caller = known.caller)
    (sameCallee : call.callee = known.callee) :
    calleesOf caller (front ++ call :: back) = calleesOf caller (front ++ back) := by
  simp only [calleesOf, List.filter_append, List.filter_cons]
  split
  · rename_i ofCaller
    have isCallee : call.callee ∈
        (front.filter fun call => call.caller = caller).map Edge.callee := by
      refine List.mem_map.mpr ⟨known, List.mem_filter.mpr ⟨isKnown, ?_⟩, sameCallee.symm⟩
      rwa [← sameCaller]
    rw [List.map_append, List.map_cons, eraseDups_append_cons_of_mem _ isCallee, List.map_append]
  · rfl

/-- The calls of the edge lines among lines. -/
def callsOf (lines : List String) : List Edge :=
  (edgeLines lines).map EdgeLine.call

theorem PrintedEdge.callsOf_append
    (edge : PrintedEdge)
    (front back : List String) :
    callsOf (front ++ edge.line :: back) = callsOf front ++ edge.call :: callsOf back := by
  rw [callsOf, edge.edgeLines_append, List.map_append, List.map_cons]
  rfl

theorem Edit.calleesOf_eq
    {lines others : List String}
    (edit : Edit lines others)
    (caller : String) :
    calleesOf caller (callsOf others) = calleesOf caller (callsOf lines) := by
  obtain ⟨front, back, edge, other, sameNames, rfl, source⟩ := edit.cases
  obtain ⟨sameCaller, sameCallee⟩ := Prod.mk.inj sameNames
  rw [other.callsOf_append]
  rcases source with rfl | ⟨isKnown, rfl⟩
  · rw [edge.callsOf_append, calleesOf_append_cons_congr caller _ _ sameCaller sameCallee]
  · have known : edge.call ∈ callsOf front := by
      obtain ⟨before, behind, rfl⟩ := List.append_of_mem isKnown
      rw [edge.callsOf_append]
      exact List.mem_append_right _ List.mem_cons_self
    have parted : callsOf (front ++ back) = callsOf front ++ callsOf back := by
      rw [callsOf, edgeLines, List.filterMap_append, List.map_append]
      rfl
    rw [parted, calleesOf_append_cons_of_mem caller _ known sameCaller sameCallee]

/-! ## Graphs of edited lines -/

/-- Plain lines are read. -/
theorem ofLines_of_plain
    {lines : List String}
    (plain : ∀ line ∈ lines, Plain line) :
    ofLines lines = .ok (ofCalls (callsOf lines)) := by
  refine ofLines_of_short ?_
  intro edge member
  obtain ⟨line, isLine, reads⟩ := List.mem_filterMap.mp member
  rcases plain line isLine with ⟨printed, rfl⟩ | unfit
  · rw [printed.edgeLine?_line, Option.some.injEq] at reads
    exact reads ▸ printed.short
  · rw [EdgeLine.edgeLine?_eq_none_iff.mpr unfit] at reads
    cases reads

theorem sameCallees_ofCalls
    {calls others : List Edge}
    (same : ∀ caller, calleesOf caller others = calleesOf caller calls) :
    (ofCalls calls).SameCallees (ofCalls others) := by
  intro caller
  rw [(groups_ofCalls calls).callees, (groups_ofCalls others).callees]
  exact congrArg inhabited? (same caller).symm

/-- No tag, no call site, no repetition of a call and no suffix of a name has a say in a diagram:
after any number of edits, the lines are read, and make the same diagram of the same functions. -/
theorem ofFunctions_edited
    {lines others : List String}
    (plain : ∀ line ∈ lines, Plain line)
    (edited : Relation.ReflTransGen Edit lines others) :
    ∃ graph other, ofLines lines = .ok graph ∧ ofLines others = .ok other ∧
      ∀ functions index,
        Diagram.ofFunctions functions graph index = Diagram.ofFunctions functions other index := by
  have kept : (∀ line ∈ others, Plain line) ∧
      ∀ caller, calleesOf caller (callsOf others) = calleesOf caller (callsOf lines) := by
    induction edited with
    | refl => exact ⟨plain, fun _ => rfl⟩
    | tail _ edit inductionHypothesis =>
        obtain ⟨stillPlain, same⟩ := inductionHypothesis
        exact ⟨edit.plain stillPlain, fun caller => (edit.calleesOf_eq caller).trans (same caller)⟩
  obtain ⟨otherPlain, same⟩ := kept
  refine ⟨_, _, ofLines_of_plain plain, ofLines_of_plain otherPlain, ?_⟩
  intro functions index
  exact Diagram.ofFunctions_congr (sameCallees_ofCalls same) functions index

/-- A function that calls another one. -/
def runPays : PrintedEdge where
  caller := ['r', 'u', 'n']
  callee := ['p', 'a', 'y']
  lineDigits := ['1']
  columnDigits := ['1']
  tag := ['s', 't', 'a', 't', 'i', 'c']
  isCaller := by decide
  callerTabless := by decide
  isTag := by decide
  tagTabless := by decide
  isLine := by decide
  lineShort := by decide
  isColumn := by decide
  columnShort := by decide
  isCallee := by decide
  calleeInked := by decide

/-- The same call somewhere else, under a tag that looks like a site. -/
def runPaysLater : PrintedEdge :=
  { runPays with
    lineDigits := ['5']
    columnDigits := ['9']
    tag := ['1', ':', '1', '-', '-', '>']
    isTag := by decide
    tagTabless := by decide
    isLine := by decide
    lineShort := by decide
    isColumn := by decide
    columnShort := by decide }

theorem isRow_one : IsRow ['1'] := by
  decide

def paidLines : List String :=
  ["# calls", runPays.line, ""]

/-- The caller is a closure now, and the call comes once more. -/
def editedPaidLines : List String :=
  ["# calls", (runPays.closeCaller isRow_one).line, "", runPaysLater.line]

/-- The edits make another graph, but the same diagram. -/
theorem paidLines_edited :
    (∀ line ∈ paidLines, Plain line) ∧
      Relation.ReflTransGen Edit paidLines editedPaidLines ∧
      ∃ graph other, ofLines paidLines = .ok graph ∧ ofLines editedPaidLines = .ok other ∧
        graph ≠ other ∧
        ∀ functions index,
          Diagram.ofFunctions functions graph index =
            Diagram.ofFunctions functions other index := by
  have unfit {line : String} (unread : edgeLine? (dropLineEnd line.toList) = none) : Plain line :=
    .inr (EdgeLine.edgeLine?_eq_none_iff.mp unread)
  have plain : ∀ line ∈ paidLines, Plain line := by
    simp only [paidLines, List.forall_mem_cons]
    exact ⟨unfit (by decide +kernel), .inl ⟨runPays, rfl⟩, unfit (by decide +kernel),
      List.forall_mem_nil _⟩
  have isKnown : (runPays.closeCaller isRow_one).line ∈
      ["# calls", (runPays.closeCaller isRow_one).line, ""] :=
    List.mem_cons_of_mem _ List.mem_cons_self
  have edited : Relation.ReflTransGen Edit paidLines editedPaidLines :=
    (Relation.ReflTransGen.single (.closeCaller ["# calls"] [""] isRow_one)).tail
      (.again _ [] isKnown (by decide +kernel))
  obtain ⟨graph, other, isGraph, isOther, same⟩ := ofFunctions_edited plain edited
  have different : ofLines paidLines ≠ ofLines editedPaidLines := by decide +kernel
  rw [isGraph, isOther] at different
  exact ⟨plain, edited, graph, other, isGraph, isOther, fun equal => different (congrArg _ equal),
    same⟩

end CallGraph

end ThreatModel
