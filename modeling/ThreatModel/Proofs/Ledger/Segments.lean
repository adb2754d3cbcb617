import ThreatModel.Proofs.Ledger.Lines

/-!
Contract: what a text adds to a ledger, read off the text alone.

Owns:
- the records that a single line gives rise to;
- the cut of a text into the lines before its first declaration and one segment
  for each declaration;
- the record of a segment, and the agreement of the ledger with these records.

Does not own: the counters of a ledger, and what a name stands for.
-/

namespace ThreatModel

open ThreatModel.Text

/-! ## What a line gives rise to -/

namespace SourceLine

variable (line : SourceLine)

def mitigation? : Option Finding :=
  match line.entry? with
  | some (.item (.mitigation component threat text ref)) =>
      some ⟨.ofReference component, threat, text, ref, line.raw⟩
  | _ => none

def exposure? : Option Finding :=
  match line.entry? with
  | some (.item (.exposure component threat text ref)) =>
      some ⟨.ofReference component, threat, text, ref, line.raw⟩
  | _ => none

def activity? : Option Activity :=
  match line.entry? with
  | some (.item (.activity action component ref)) =>
      some ⟨action, .ofReference component, ref, line.raw⟩
  | _ => none

def flow? : Option Flow :=
  match line.entry? with
  | some (.item (.flow direction subject source dest)) =>
      some ⟨direction, subject, .ofReference source, .ofReference dest, line.raw⟩
  | _ => none

def test? : Option TestRecord :=
  match line.entry? with
  | some (.item (.test function threat ref)) => some ⟨function, threat, ref, line.raw⟩
  | _ => none

/-- The definition of `function` that the line begins, if it is a signature of that function. -/
def definition?
    (file function : String) :
    Option Definition :=
  match line.entry? with
  | some (.signature code name) =>
      if Entry.signatureMatches name function then some ⟨code, file, line.number⟩ else none
  | _ => none

/-- The orphan that an item becomes when no declaration stands before it. -/
def orphan? (file : String) : Option Orphan :=
  match line.entry? with
  | some (.item item) => some ⟨file, line.number, item.kind, line.raw⟩
  | _ => none

end SourceLine

/-! ## The cut of a text -/

/-- A declaration line with the lines up to the next declaration line or the end. -/
structure Segment where
  head : SourceLine
  model : String
  function : String
  body : List SourceLine
  opens : head.entry? = some (.declaration model function)
  unbroken : ∀ line ∈ body, line.declares = false

namespace Segment

def lines (segment : Segment) : List SourceLine :=
  segment.head :: segment.body

/-- The record of a segment, all of it read off the lines of the segment. -/
def record
    (segment : Segment)
    (file : String) :
    Declaration where
  model := segment.model
  function := segment.function
  raw := segment.head.raw
  mitigations := segment.body.filterMap SourceLine.mitigation?
  exposures := segment.body.filterMap SourceLine.exposure?
  activities := segment.body.filterMap SourceLine.activity?
  flows := segment.body.filterMap SourceLine.flow?
  tests := segment.body.filterMap SourceLine.test?
  definition := (segment.body.filterMap (·.definition? file segment.function)).getLast?

end Segment

/-- Lines cut before each declaration line: `preamble` stands before the first one. -/
structure Segmentation (lines : List SourceLine) where
  preamble : List SourceLine
  segments : List Segment
  undeclared : ∀ line ∈ preamble, line.declares = false
  joined : preamble ++ segments.flatMap Segment.lines = lines

theorem Segment.declares_head (segment : Segment) : segment.head.declares = true := by
  rw [SourceLine.declares, segment.opens]

namespace Segmentation

/-- A line before a cut text opens a segment, with the preamble for its body, or comes first in the
preamble. -/
def cons
    {rest : List SourceLine}
    (head : SourceLine)
    (cut : Segmentation rest) :
    Segmentation (head :: rest) :=
  match reads : head.entry? with
  | some (.declaration model function) =>
      { preamble := []
        segments := ⟨head, model, function, cut.preamble, reads, cut.undeclared⟩ :: cut.segments
        undeclared := by simp
        joined := congrArg (head :: ·) cut.joined }
  | none | some (.item _) | some (.signature _ _) =>
      { preamble := head :: cut.preamble
        segments := cut.segments
        undeclared :=
          List.forall_mem_cons.mpr ⟨by rw [SourceLine.declares, reads], cut.undeclared⟩
        joined := congrArg (head :: ·) cut.joined }

def ofLines : (lines : List SourceLine) → Segmentation lines
  | [] => ⟨[], [], by simp, rfl⟩
  | head :: rest => cons head (ofLines rest)

private theorem filter_declares_eq_nil
    {lines : List SourceLine}
    (undeclared : ∀ line ∈ lines, line.declares = false) :
    lines.filter SourceLine.declares = [] := by
  rw [List.filter_eq_nil_iff]
  intro line member declared
  rw [undeclared line member] at declared
  cases declared

/-- The heads of the segments are all the declaration lines, in order. -/
theorem heads_eq_filter
    {lines : List SourceLine}
    (cut : Segmentation lines) :
    cut.segments.map Segment.head = lines.filter SourceLine.declares := by
  have headOnly (segment : Segment) :
      segment.lines.filter SourceLine.declares = [segment.head] := by
    rw [Segment.lines, List.filter_cons_of_pos segment.declares_head,
      filter_declares_eq_nil segment.unbroken]
  calc
    cut.segments.map Segment.head
        = cut.segments.flatMap fun segment => segment.lines.filter SourceLine.declares := by
          simp only [headOnly, List.map_eq_flatMap]
    _ = (cut.preamble ++ cut.segments.flatMap Segment.lines).filter SourceLine.declares := by
          rw [List.filter_append, filter_declares_eq_nil cut.undeclared, List.nil_append,
            List.filter_flatMap]
    _ = lines.filter SourceLine.declares := by rw [cut.joined]

end Segmentation

end ThreatModel
