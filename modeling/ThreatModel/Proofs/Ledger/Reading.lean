import ThreatModel.Proofs.Ledger.Segments

/-!
Contract: the reading of a text follows its segments.

Owns:
- what lines without a declaration add to the declaration before them;
- the declarations, the cursor and the orphans while a text is being read, line by
  line and segment by segment;
- what a whole text adds to the declarations and the orphans of any ledger.

Does not own: the counters of a ledger, and what a name stands for.
-/

namespace ThreatModel

open ThreatModel.Text

/-! ## What lines add to a declaration -/

namespace Declaration

variable (declaration : Declaration) (file : String)

/-- The declaration with the records of further lines; the last signature of its own among them
defines it. -/
def extend (body : List SourceLine) : Declaration :=
  { declaration with
    mitigations := declaration.mitigations ++ body.filterMap SourceLine.mitigation?
    exposures := declaration.exposures ++ body.filterMap SourceLine.exposure?
    activities := declaration.activities ++ body.filterMap SourceLine.activity?
    flows := declaration.flows ++ body.filterMap SourceLine.flow?
    tests := declaration.tests ++ body.filterMap SourceLine.test?
    definition :=
      (body.filterMap (·.definition? file declaration.function)).getLast?.or
        declaration.definition }

theorem extend_nil : declaration.extend file [] = declaration := by
  simp [extend]

theorem extend_append (front back : List SourceLine) :
    declaration.extend file (front ++ back) = (declaration.extend file front).extend file back := by
  simp [extend, List.filterMap_append, List.getLast?_append, Option.or_assoc]

/-- What one line adds: the record of an item, or a definition by a signature that is its own. -/
theorem extend_singleton (line : SourceLine) :
    declaration.extend file [line] =
      match line.entry? with
      | some (.item item) => declaration.add item line.raw
      | some (.signature code name) =>
          if Entry.signatureMatches name declaration.function then
            { declaration with definition := some ⟨code, file, line.number⟩ }
          else declaration
      | _ => declaration := by
  simp only [extend, List.filterMap_cons, List.filterMap_nil, SourceLine.mitigation?,
    SourceLine.exposure?, SourceLine.activity?, SourceLine.flow?, SourceLine.test?,
    SourceLine.definition?]
  cases line.entry? with
  | none => simp
  | some entry =>
      cases entry with
      | declaration model function => simp
      | item item => cases item <;> simp [add]
      | signature code name =>
          by_cases own : Entry.signatureMatches name declaration.function = true
          · simp [own]
          · simp [own]

end Declaration

/-- A segment's record is its bare declaration, extended by its body. -/
theorem Segment.extend_body
    (segment : Segment)
    (file : String) :
    Declaration.extend
        { model := segment.model, function := segment.function, raw := segment.head.raw }
        file segment.body =
      segment.record file := by
  simp [Declaration.extend, record]

/-! ## The state while a text is read -/

namespace Ledger

/-- What a state shows of a text being read: all declarations, the place of the current one, and
all orphans. -/
structure Reading
    (file : String)
    (declarations : List Declaration)
    (current : Option Nat)
    (orphans : List Orphan)
    (state : Ledger × Cursor) :
    Prop where
  declarations_eq : state.1.declarations = declarations
  cursor_eq : state.2 = ⟨file, current⟩
  orphans_eq : state.1.orphans = orphans

theorem modify_length_append
    {α : Type}
    (front : List α)
    (last : α)
    (update : α → α) :
    (front ++ [last]).modify front.length update = front ++ [update last] :=
  List.modifyTailIdx_add (List.modifyHead update) 0 front [last]

/-- A signature defines the current declaration if it is its own. -/
theorem declarations_sign_current
    {ledger : Ledger}
    {closed : List Declaration}
    {last : Declaration}
    (declared : ledger.declarations = closed ++ [last])
    (file : String)
    (number : Int)
    (code name : String) :
    (ledger.sign ⟨file, some closed.length⟩ number code name).declarations =
      closed ++
        [if Entry.signatureMatches name last.function then
          { last with definition := some ⟨code, file, number⟩ }
        else last] := by
  have target :
      { ledger with found := ledger.found.tally name }.signatureTarget?
          ⟨file, some closed.length⟩ name =
        if Entry.signatureMatches name last.function then some (closed.length, last) else none := by
    simp [signatureTarget?, declared]
  by_cases own : Entry.signatureMatches name last.function = true
  · rw [if_pos own] at target ⊢
    simp only [sign, target]
    rw [declared, modify_length_append]
  · rw [if_neg own] at target ⊢
    simp only [sign, target]
    exact declared

namespace Reading

variable {file : String} {orphans : List Orphan} {state : Ledger × Cursor}

section Step

variable {line : SourceLine}

/-- A declaration line closes the current declaration and makes its own the current one. -/
theorem enterLine_declaration
    {declarations : List Declaration}
    {current : Option Nat}
    {model function : String}
    (reading : Reading file declarations current orphans state)
    (reads : line.entry? = some (.declaration model function)) :
    Reading file (declarations ++ [{ model, function, raw := line.raw }])
      (some declarations.length) orphans (enterLine state line) := by
  rw [enterLine_of_entry state reads]
  constructor
  · simp [apply, declare, reading.declarations_eq]
  · simp [apply, declare, reading.declarations_eq, reading.cursor_eq]
  · simp [apply, declare, reading.orphans_eq]

/-- Any other line extends the current declaration and leaves the rest as it is. -/
theorem enterLine_current
    {closed : List Declaration}
    {last : Declaration}
    (reading : Reading file (closed ++ [last]) (some closed.length) orphans state)
    (undeclared : line.declares = false) :
    Reading file (closed ++ [last.extend file [line]]) (some closed.length) orphans
      (enterLine state line) := by
  obtain ⟨ledger, cursor⟩ := state
  have declared : ledger.declarations = closed ++ [last] := reading.declarations_eq
  obtain rfl : cursor = ⟨file, some closed.length⟩ := reading.cursor_eq
  obtain rfl : ledger.orphans = orphans := reading.orphans_eq
  obtain reads | ⟨item, reads⟩ | ⟨code, name, reads⟩ := SourceLine.entry?_of_undeclared undeclared
  · rw [enterLine_of_silent _ reads, last.extend_singleton file, reads]
    exact ⟨by simpa using declared, rfl, by simp⟩
  · rw [enterLine_of_entry _ reads, last.extend_singleton file, reads]
    refine ⟨?_, rfl, by simp [apply]⟩
    simp only [apply, declarations_register, declarations_enter, declared, modify_length_append]
  · rw [enterLine_of_entry _ reads, last.extend_singleton file, reads]
    refine ⟨?_, rfl, by simp [apply]⟩
    simp only [apply, declarations_register, declarations_sign_current declared]

/-- Before the first declaration an item becomes an orphan, and nothing else happens. -/
theorem enterLine_preamble
    {declarations : List Declaration}
    (reading : Reading file declarations none orphans state)
    (undeclared : line.declares = false) :
    Reading file declarations none (orphans ++ (line.orphan? file).toList)
      (enterLine state line) := by
  obtain ⟨ledger, cursor⟩ := state
  obtain rfl : ledger.declarations = declarations := reading.declarations_eq
  obtain rfl : cursor = ⟨file, none⟩ := reading.cursor_eq
  obtain rfl : ledger.orphans = orphans := reading.orphans_eq
  obtain reads | ⟨item, reads⟩ | ⟨code, name, reads⟩ := SourceLine.entry?_of_undeclared undeclared
  · rw [enterLine_of_silent _ reads]
    exact ⟨by simp, rfl, by simp [SourceLine.orphan?, reads]⟩
  · rw [enterLine_of_entry _ reads]
    exact ⟨by simp [apply], rfl, by simp [apply, SourceLine.orphan?, reads]⟩
  · have untouched :
        (ledger.sign ⟨file, none⟩ line.number code name).declarations = ledger.declarations := rfl
    rw [enterLine_of_entry _ reads]
    exact ⟨by simpa [apply] using untouched, rfl, by simp [apply, SourceLine.orphan?, reads]⟩

end Step

/-! ## The run over a segment, and over a text -/

/-- The induction is on the body: each of its lines extends the same declaration further. -/
theorem foldl_body
    {closed : List Declaration}
    {last : Declaration}
    {body : List SourceLine}
    (reading : Reading file (closed ++ [last]) (some closed.length) orphans state)
    (unbroken : ∀ line ∈ body, line.declares = false) :
    Reading file (closed ++ [last.extend file body]) (some closed.length) orphans
      (body.foldl enterLine state) := by
  induction body generalizing last state with
  | nil => rwa [last.extend_nil]
  | cons head rest inductionHypothesis =>
      have entered := reading.enterLine_current (unbroken head (by simp))
      have extended :
          last.extend file (head :: rest) = (last.extend file [head]).extend file rest :=
        last.extend_append file [head] rest
      rw [List.foldl_cons, extended]
      exact inductionHypothesis entered fun line member =>
        unbroken line (List.mem_cons_of_mem _ member)

theorem foldl_segment
    {declarations : List Declaration}
    {current : Option Nat}
    (reading : Reading file declarations current orphans state)
    (segment : Segment) :
    Reading file (declarations ++ [segment.record file]) (some declarations.length) orphans
      (segment.lines.foldl enterLine state) := by
  rw [Segment.lines, List.foldl_cons, ← segment.extend_body]
  exact (reading.enterLine_declaration segment.opens).foldl_body segment.unbroken

theorem foldl_segments
    {declarations : List Declaration}
    {current : Option Nat}
    (reading : Reading file declarations current orphans state)
    (segments : List Segment) :
    ∃ last,
      Reading file (declarations ++ segments.map (·.record file)) last orphans
        ((segments.flatMap Segment.lines).foldl enterLine state) := by
  induction segments generalizing declarations current state with
  | nil => exact ⟨current, by simpa using reading⟩
  | cons head rest inductionHypothesis =>
      have entered := reading.foldl_segment head
      rw [List.flatMap_cons, List.foldl_append, List.map_cons, ← List.singleton_append,
        ← List.append_assoc]
      exact inductionHypothesis entered

theorem foldl_preamble
    {declarations : List Declaration}
    {preamble : List SourceLine}
    (reading : Reading file declarations none orphans state)
    (undeclared : ∀ line ∈ preamble, line.declares = false) :
    Reading file declarations none (orphans ++ preamble.filterMap (·.orphan? file))
      (preamble.foldl enterLine state) := by
  induction preamble generalizing orphans state with
  | nil => simpa using reading
  | cons head rest inductionHypothesis =>
      have entered := reading.enterLine_preamble (undeclared head (by simp))
      have parted :
          (head :: rest).filterMap (·.orphan? file) =
            (head.orphan? file).toList ++ rest.filterMap (·.orphan? file) := by
        cases orphan : head.orphan? file <;> simp [orphan]
      rw [List.foldl_cons, parted, ← List.append_assoc]
      exact inductionHypothesis entered fun line member =>
        undeclared line (List.mem_cons_of_mem _ member)

end Reading

/-- A text adds the records of its segments and the orphans of its preamble, however the ledger
stands, and its lines can be cut in this way. -/
theorem read_follows_segments
    (ledger : Ledger)
    (file text : String) :
    Nonempty (Segmentation (SourceLine.ofText text)) ∧
      ∀ cut : Segmentation (SourceLine.ofText text),
        cut.segments.map Segment.head = (SourceLine.ofText text).filter SourceLine.declares ∧
          (ledger.read file text).declarations =
            ledger.declarations ++ cut.segments.map (·.record file) ∧
          (ledger.read file text).orphans =
            ledger.orphans ++ cut.preamble.filterMap (·.orphan? file) := by
  refine ⟨⟨.ofLines _⟩, fun cut => ⟨cut.heads_eq_filter, ?_⟩⟩
  have start :
      Reading file ledger.declarations none ledger.orphans (ledger, ({ file } : Cursor)) :=
    ⟨rfl, rfl, rfl⟩
  obtain ⟨last, finish⟩ := (start.foldl_preamble cut.undeclared).foldl_segments cut.segments
  rw [← List.foldl_append, cut.joined] at finish
  rw [read_eq_foldl_enterLine]
  exact ⟨finish.declarations_eq, finish.orphans_eq⟩

end Ledger

end ThreatModel
