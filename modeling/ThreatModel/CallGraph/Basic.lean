import ThreatModel.CallGraph.Name
import ThreatModel.OrderedMap
import ThreatModel.Text.Numeral
import ThreatModel.Text.Pattern
import ThreatModel.Text.Split

/-!
Contract: call graphs, and the edge lines that they are read from.

Owns:
- the call sites of each caller and callee, in the order of first arrival;
- the shape of an edge line, and the limit on the digits of its numbers;
- the graph of a list of lines, and the lines that are skipped on the way.

Does not own: files, or the functions behind the names.
-/

namespace ThreatModel

open ThreatModel.Text

/-- The place of a call in the source of the caller. -/
structure CallSite where
  line : Nat
  column : Nat
deriving DecidableEq, Repr

abbrev Callees := OrderedMap String (List CallSite)

abbrev CallGraph := OrderedMap String Callees

namespace CallGraph

/-- A number of more decimal digits than are read. -/
inductive Fault where
  | tooManyDigits (count : Nat)
deriving DecidableEq, Repr

def Fault.message : Fault → String
  | .tooManyDigits count => Text.tooManyDigits count

/-- An edge line: `caller⇥--tag-line:column-->⇥callee`, where the tag tells nothing. -/
structure EdgeLine where
  caller : List Char
  callee : List Char
  lineDigits : List Char
  columnDigits : List Char
deriving DecidableEq, Repr

/-- One decimal digit or more, and the rest. -/
def digits? (text : List Char) : Option (List Char × List Char) :=
  match text.takeWhile isDecimalDigit with
  | [] => none
  | digits => some (digits, text.dropWhile isDecimalDigit)

/-- The numbers and the callee, after the tag. -/
def siteAndCallee? (text : List Char) : Option (List Char × List Char × List Char) := do
  let afterTag ← after? ['-'] text
  let (lineDigits, afterLine) ← digits? afterTag
  let beforeColumn ← after? [':'] afterLine
  let (columnDigits, afterColumn) ← digits? beforeColumn
  let beforeCallee ← after? ['-', '-', '>', '\t'] afterColumn
  let (callee, _) ←
    shortestField (fun rest => if allBlank rest then some () else none) beforeCallee
  return (lineDigits, columnDigits, callee)

/-- Reads a line without its line end. -/
def edgeLine? (line : List Char) : Option EdgeLine :=
  (shortestField
    (fun rest => (after? ['\t', '-', '-'] rest).bind (shortestField siteAndCallee?))
    line).map fun (caller, _, lineDigits, columnDigits, callee) =>
      ⟨caller, callee, lineDigits, columnDigits⟩

structure Edge where
  caller : String
  callee : String
  site : CallSite
deriving DecidableEq, Repr

def number? (digits : List Char) : Except Fault Nat :=
  if digitLimit < digits.length then .error (.tooManyDigits digits.length)
  else .ok (decimalValue digits)

/-- The edge between the nodes that the names stand for. -/
def EdgeLine.edge? (edge : EdgeLine) : Except Fault Edge := do
  let line ← number? edge.lineDigits
  let column ← number? edge.columnDigits
  return ⟨stripSuffix (String.ofList edge.caller), stripSuffix (String.ofList edge.callee),
    ⟨line, column⟩⟩

/-- The graph with one more call site. -/
def add
    (graph : CallGraph)
    (edge : Edge) :
    CallGraph :=
  graph.alter edge.caller fun callees =>
    (callees.getD ∅).alter edge.callee fun sites => sites.getD [] ++ [edge.site]

/-- The edge of a line, if the line has the shape of one. -/
def readLine (line : String) : Except Fault (Option Edge) :=
  match edgeLine? (dropLineEnd line.toList) with
  | none => .ok none
  | some edge => edge.edge?.map some

/-- Adds the edges of the lines in order; other lines change nothing. -/
def addLines
    (graph : CallGraph) :
    List String → Except Fault CallGraph
  | [] => .ok graph
  | line :: rest =>
      match readLine line with
      | .error fault => .error fault
      | .ok none => addLines graph rest
      | .ok (some edge) => addLines (graph.add edge) rest

def ofLines (lines : List String) : Except Fault CallGraph :=
  addLines ∅ lines

/-- The lines that are not blank and not edges, up to the first line with a fault. -/
def skipped : List String → List String
  | [] => []
  | line :: rest =>
      match readLine line with
      | .error _ => []
      | .ok (some _) => skipped rest
      | .ok none =>
          if allBlank line.toList then skipped rest else line :: skipped rest

def ofText (text : String) : Except Fault CallGraph :=
  ofLines (textLines text)

end CallGraph

end ThreatModel
