import ThreatModel.CallGraph.Load
import ThreatModel.Proofs.CallGraph.Grouping
import ThreatModel.Proofs.Text.LineEnds

/-!
Contract: a call graph does not depend on the way its text is read.

Owns:
- that neither line ends nor empty lines have a part in the graph of lines;
- that the graph of a file, whose line ends are unified, is the graph of its text as
  it is, or the fault that has, where runs of carriage returns end lines.

Does not own: which way a command takes.
-/

namespace ThreatModel.CallGraph

open ThreatModel.Text

theorem edgeLines_cons (line : String) (rest : List String) :
    edgeLines (line :: rest) =
      (edgeLine? (dropLineEnd line.toList)).toList ++ edgeLines rest := by
  rw [edgeLines, List.filterMap_cons]
  cases edgeLine? (dropLineEnd line.toList) <;> rfl

/-- A line that is empty but for its end is no edge. -/
theorem edgeLines_gap
    {gap : List (List Char)}
    (empty : ∀ added ∈ gap, SameButEnd added [])
    (lines : List String) :
    edgeLines (gap.map String.ofList ++ lines) = edgeLines lines := by
  induction gap with
  | nil => rfl
  | cons added rest inductionHypothesis =>
      rw [List.forall_mem_cons] at empty
      have noEdge : edgeLine? (dropLineEnd added) = none := by
        rw [empty.1]
        rfl
      rw [List.map_cons, List.cons_append, edgeLines_cons, String.toList_ofList, noEdge,
        inductionHypothesis empty.2]
      rfl

theorem edgeLines_of_spaced
    {lines others : List (List Char)}
    (spaced : Spaced lines others) :
    edgeLines (lines.map String.ofList) = edgeLines (others.map String.ofList) := by
  induction spaced with
  | nil => rfl
  | cons same empty _ inductionHypothesis =>
      rw [List.map_cons, List.map_cons, List.map_append, edgeLines_cons, edgeLines_cons,
        edgeLines_gap empty, inductionHypothesis, String.toList_ofList, String.toList_ofList, same]

/-- The text is read with unified line ends, and so with empty lines where the text as it is has
further carriage returns. Neither has a part in the graph or in the fault. -/
theorem loadFile_eq_ofText
    {tree : Tree}
    {path content : String}
    {octets : List UInt8}
    (isFile : tree.readOctets path = .ok octets)
    (isText : Files.decode octets = .ok content)
    (ended : ReturnsEnd content.toList) :
    loadFile tree path = (ofText content).mapError .line := by
  have isRead : linesOfFile tree path =
      .ok ((lines (unifyLineEnds content.toList)).map String.ofList) := by
    rw [linesOfFile, Files.readText_of_decode isFile isText]
    simp only [textLines, String.toList_ofList]
  have sameGraph : ofLines ((lines (unifyLineEnds content.toList)).map String.ofList) =
      ofText content := by
    rw [ofText, textLines, ofLines_eq, ofLines_eq,
      edgeLines_of_spaced (spaced_unifyLineEnds ended)]
  have loaded : loadFile tree path =
      loadLines ((lines (unifyLineEnds content.toList)).map String.ofList) := by
    rw [loadFile, isRead]
    rfl
  rw [loaded, loadLines, sameGraph]
  cases ofText content <;> rfl

end ThreatModel.CallGraph
