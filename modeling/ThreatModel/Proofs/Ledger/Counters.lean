import Mathlib.Algebra.GroupWithZero.Nat
import ThreatModel.Analysis.Coverage
import ThreatModel.Proofs.Ledger.Desk
import ThreatModel.Proofs.OrderedMap.Collect
import ThreatModel.Proofs.OrderedMap.Counts

/-!
Contract: the counters of a ledger agree with its records.

Owns:
- measures: numbers that the items under a declaration add up to;
- the agreement of the three counters with the declarations and the entered lines,
  and that no item is lost;
- coverage, read off the declarations and the entered lines.

Does not own: what a name stands for.
-/

namespace ThreatModel

/-! ## Measures -/

/-- One element of a list grows, and so does the sum. -/
theorem sum_map_modify
    {α : Type}
    {size : α → Nat}
    {update : α → α}
    {gain : Nat}
    (grows : ∀ element, size (update element) = size element + gain)
    {list : List α}
    {place : Nat}
    (inside : place < list.length) :
    ((list.modify place update).map size).sum = (list.map size).sum + gain := by
  have parted := List.take_append_drop place list
  rw [List.drop_eq_getElem_cons inside] at parted
  calc
    ((list.modify place update).map size).sum
        = ((list.take place).map size).sum +
            (size list[place] + gain + ((list.drop (place + 1)).map size).sum) := by
          rw [List.modify_eq_take_cons_drop inside, List.map_append, List.sum_append, List.map_cons,
            List.sum_cons, grows]
    _ = ((list.take place ++ list[place] :: list.drop (place + 1)).map size).sum + gain := by
          rw [List.map_append, List.sum_append, List.map_cons, List.sum_cons]
          omega
    _ = (list.map size).sum + gain := by rw [parted]

/-- A number that the items of a declaration add up to. -/
structure Measure where
  of : Declaration → Nat
  weight : Entry.Item → Nat
  of_bare : ∀ model function raw, of { model, function, raw } = 0
  of_add : ∀ declaration item raw, of (declaration.add item raw) = of declaration + weight item
  of_defined : ∀ (declaration : Declaration) definition,
    of { declaration with definition } = of declaration

/-- The number of records, of whatever kind. -/
def Declaration.recordCount (declaration : Declaration) : Nat :=
  declaration.coverCount + declaration.tests.length

namespace Measure

/-- Every record but a test covers its declaration. -/
def cover : Measure where
  of := Declaration.coverCount
  weight
    | .test _ _ _ => 0
    | _ => 1
  of_bare _ _ _ := rfl
  of_add declaration item raw := by
    cases item <;> simp [Declaration.add, Declaration.coverCount] <;> omega
  of_defined _ _ := rfl

def records : Measure where
  of := Declaration.recordCount
  weight _ := 1
  of_bare _ _ _ := rfl
  of_add declaration item raw := by
    cases item <;>
      simp [Declaration.add, Declaration.recordCount, Declaration.coverCount] <;> omega
  of_defined _ _ := rfl

/-- The number of tests of one function. -/
def testsOf (name : String) : Measure where
  of declaration := (declaration.tests.map TestRecord.function).count name
  weight
    | .test function _ _ => if function = name then 1 else 0
    | _ => 0
  of_bare _ _ _ := rfl
  of_add declaration item raw := by
    cases item <;> simp [Declaration.add, List.count_singleton]
  of_defined _ _ := rfl

variable (measure : Measure)

/-- What a line adds under a declaration. -/
def gain (line : SourceLine) : Nat :=
  match line.entry? with
  | some (.item item) => measure.weight item
  | _ => 0

theorem of_extend
    (declaration : Declaration)
    (file : String)
    (line : SourceLine) :
    measure.of (declaration.extend file [line]) = measure.of declaration + measure.gain line := by
  rw [declaration.extend_singleton, gain]
  cases line.entry? with
  | none => rfl
  | some entry =>
      cases entry with
      | declaration model function => rfl
      | item item => exact measure.of_add declaration item line.raw
      | signature code name =>
          dsimp only
          split
          · exact measure.of_defined declaration _
          · rfl

/-- The measure of the declaration at a place. -/
def atPlace
    (ledger : Ledger)
    (place : Nat) :
    Nat :=
  (ledger.declarations[place]?.map measure.of).getD 0

/-- The measures of all declarations. -/
def total (ledger : Ledger) : Nat :=
  (ledger.declarations.map measure.of).sum

section EnterLine

variable {ledger : Ledger} {cursor : Cursor} (stands : cursor.StandsIn ledger) (line : SourceLine)

include stands

theorem atPlace_enterLine (place : Nat) :
    measure.atPlace (Ledger.enterLine (ledger, cursor) line).1 place =
      measure.atPlace ledger place +
        if cursor.current = some place then measure.gain line else 0 := by
  unfold atPlace
  obtain ⟨model, function, reads, declared, _⟩ | ⟨_, extended, _⟩ :=
    Ledger.enterLine_cases ledger cursor line
  · have gainless : measure.gain line = 0 := by rw [gain, reads]
    rw [gainless, ite_self, Nat.add_zero, declared]
    by_cases inside : place < ledger.declarations.length
    · rw [List.getElem?_append_left inside]
    · have beyond := Nat.le_of_not_lt inside
      rw [List.getElem?_append_right beyond, List.getElem?_eq_none beyond]
      cases place - ledger.declarations.length with
      | zero => exact measure.of_bare model function line.raw
      | succ rest => rfl
  · rw [extended]
    cases current : cursor.current with
    | none => simp
    | some known =>
        rw [Option.elim_some, List.getElem?_modify]
        by_cases own : known = place
        · subst own
          have inside := stands known current
          rw [List.getElem?_eq_getElem inside, if_pos rfl]
          simp [measure.of_extend]
        · cases ledger.declarations[place]? <;> simp [own]

theorem total_enterLine :
    measure.total (Ledger.enterLine (ledger, cursor) line).1 =
      measure.total ledger + if cursor.current.isSome then measure.gain line else 0 := by
  unfold total
  obtain ⟨model, function, reads, declared, _⟩ | ⟨_, extended, _⟩ :=
    Ledger.enterLine_cases ledger cursor line
  · have gainless : measure.gain line = 0 := by rw [gain, reads]
    rw [gainless, ite_self, Nat.add_zero, declared, List.map_append, List.sum_append,
      List.map_singleton, List.sum_singleton, measure.of_bare, Nat.add_zero]
  · rw [extended]
    cases current : cursor.current with
    | none => simp
    | some place =>
        have grows (declaration : Declaration) := measure.of_extend declaration cursor.file line
        exact sum_map_modify grows (stands place current)

end EnterLine

end Measure

/-! ## The step of a line -/

namespace SourceLine

variable (line : SourceLine)

def isItem : Bool :=
  match line.entry? with
  | some (.item _) => true
  | _ => false

theorem gain_cover : Measure.cover.gain line = if line.covers then 1 else 0 := by
  rw [Measure.gain, covers]
  cases line.entry? with
  | none => rfl
  | some entry =>
      cases entry with
      | declaration model function => rfl
      | item item => cases item <;> rfl
      | signature code name => rfl

theorem gain_records : Measure.records.gain line = if line.isItem then 1 else 0 := by
  rw [Measure.gain, isItem]
  cases line.entry? with
  | none => rfl
  | some entry => cases entry <;> rfl

theorem gain_testsOf (name : String) :
    (Measure.testsOf name).gain line = if line.testedName? = some name then 1 else 0 := by
  rw [Measure.gain, testedName?]
  cases line.entry? with
  | none => rfl
  | some entry =>
      cases entry with
      | declaration model function => rfl
      | item item => cases item <;> simp [Measure.testsOf]
      | signature code name => rfl

end SourceLine

namespace Ledger

variable (ledger : Ledger) (cursor : Cursor) (line : SourceLine)

/-- A line may cover the declaration that its cursor stands in. -/
theorem covered_enterLine :
    (enterLine (ledger, cursor) line).1.covered =
      (if line.covers then cursor.current else none).elim ledger.covered
        ledger.covered.tally := by
  unfold SourceLine.covers
  cases reads : line.entry? with
  | none => simp [enterLine_of_silent _ reads]
  | some entry =>
      rw [enterLine_of_entry _ reads]
      cases entry with
      | declaration model function => simp [apply, declare]
      | signature code name => simp [apply]
      | item item =>
          cases current : cursor.current with
          | none => cases item <;> simp [apply, current]
          | some place => cases item <;> simp [apply, current, enter]

/-- An item that no declaration stands before is an orphan. -/
theorem length_orphans_enterLine :
    (enterLine (ledger, cursor) line).1.orphans.length =
      ledger.orphans.length +
        if cursor.current.isSome then 0 else if line.isItem then 1 else 0 := by
  unfold SourceLine.isItem
  cases reads : line.entry? with
  | none => simp [enterLine_of_silent _ reads]
  | some entry =>
      rw [enterLine_of_entry _ reads]
      cases entry with
      | declaration model function => simp [apply, declare]
      | signature code name => simp [apply]
      | item item =>
          cases current : cursor.current with
          | none => simp [apply, current]
          | some place => simp [apply, current]

/-! ## The counters -/

/-- The functions that tests name, over all declarations. -/
def testTargets (ledger : Ledger) : List String :=
  (ledger.declarations.flatMap Declaration.tests).map TestRecord.function

theorem count_testTargets
    (ledger : Ledger)
    (name : String) :
    ledger.testTargets.count name = (Measure.testsOf name).total ledger := by
  rw [testTargets, List.map_flatMap, List.count_flatMap]
  rfl

/-- The places of the declarations that something covers. -/
def coveredPlaces (ledger : Ledger) : List Nat :=
  (ledger.declarations.zipIdx.filter (0 < ·.1.coverCount)).map Prod.snd

theorem nodup_coveredPlaces (ledger : Ledger) : ledger.coveredPlaces.Nodup := by
  have places : (ledger.declarations.zipIdx.map Prod.snd).Nodup := by
    rw [List.zipIdx_map_snd]
    exact List.nodup_range'
  exact (List.filter_sublist.map Prod.snd).nodup places

theorem mem_coveredPlaces
    (ledger : Ledger)
    (place : Nat) :
    place ∈ ledger.coveredPlaces ↔ 0 < Measure.cover.atPlace ledger place := by
  simp only [coveredPlaces, List.mem_map, List.mem_filter, List.mem_zipIdx_iff_getElem?,
    Measure.atPlace]
  cases known : ledger.declarations[place]? with
  | none => simp [known]
  | some declaration => simp [known, Measure.cover]

theorem length_coveredPlaces (ledger : Ledger) :
    ledger.coveredPlaces.length = ledger.declarations.countP (0 < ·.coverCount) := by
  calc
    ledger.coveredPlaces.length
        = ledger.declarations.zipIdx.countP (0 < ·.1.coverCount) := by
          rw [coveredPlaces, List.length_map, ← List.countP_eq_length_filter]
    _ = (ledger.declarations.zipIdx.map Prod.fst).countP (0 < ·.coverCount) := by
          rw [List.countP_map]
          rfl
    _ = ledger.declarations.countP (0 < ·.coverCount) := by rw [List.zipIdx_map_fst]

/-- The counters agree with the declarations and with the lines that were entered, and every item is
on a declaration or among the orphans. -/
structure Counted
    (lines : List SourceLine)
    (ledger : Ledger) :
    Prop where
  covered : ledger.covered.CountsAs (Measure.cover.atPlace ledger)
  tested : ledger.tested.CountsAs fun name => ledger.testTargets.count name
  found : ledger.found.CountsAs fun name => (lines.filterMap SourceLine.signatureName?).count name
  items :
    lines.countP SourceLine.isItem = Measure.records.total ledger + ledger.orphans.length

namespace Counted

theorem start : Counted [] ∅ :=
  ⟨fun _ => rfl, fun _ => rfl, fun _ => rfl, rfl⟩

/-- The step lemma. -/
theorem enterLine
    {lines : List SourceLine}
    {ledger : Ledger}
    {cursor : Cursor}
    (counted : Counted lines ledger)
    (stands : cursor.StandsIn ledger)
    (line : SourceLine) :
    Counted (lines ++ [line]) (Ledger.enterLine (ledger, cursor) line).1 := by
  constructor
  · rw [covered_enterLine]
    apply counted.covered.elim_tally
    intro place
    rw [Measure.cover.atPlace_enterLine stands, line.gain_cover]
    by_cases covers : line.covers = true
    · simp [covers]
    · simp [covers]
  · rw [tested_enterLine]
    apply counted.tested.elim_tally
    intro name
    rw [count_testTargets, count_testTargets, (Measure.testsOf name).total_enterLine stands,
      line.gain_testsOf]
    by_cases isCurrent : cursor.current.isSome = true
    · simp [isCurrent]
    · simp [isCurrent]
  · rw [found_enterLine]
    apply counted.found.elim_tally
    intro name
    rw [List.filterMap_append, List.count_append]
    cases signed : line.signatureName? with
    | none => simp [signed]
    | some other => simp [signed, List.count_singleton]
  · have total := Measure.records.total_enterLine stands line
    rw [line.gain_records] at total
    rw [List.countP_append, List.countP_singleton, counted.items, total, length_orphans_enterLine]
    by_cases isCurrent : cursor.current.isSome = true
    · rw [if_pos isCurrent, if_pos isCurrent]
      omega
    · rw [if_neg isCurrent, if_neg isCurrent]
      omega

end Counted

end Ledger

/-- After any operations through any contexts, the counters of the ledger are the counts of what
its declarations hold and of the signatures that were entered; every item that was entered is on a
declaration or an orphan; and coverage counts covered declarations, distinct tested functions and
distinct signature names. -/
theorem Desk.run_counts
    {γ : Type}
    [DecidableEq γ]
    (operations : List (Operation γ)) :
    let ledger := (Desk.run operations).ledger
    let lines := operations.flatMap Operation.lines
    let signatures := lines.filterMap SourceLine.signatureName?
    (∀ place,
      ledger.covered.get? place =
        positive? ((ledger.declarations[place]?.map Declaration.coverCount).getD 0)) ∧
      (∀ name, ledger.tested.get? name = positive? (ledger.testTargets.count name)) ∧
      (∀ name, ledger.found.get? name = positive? (signatures.count name)) ∧
      lines.countP SourceLine.isItem =
        (ledger.declarations.map Declaration.recordCount).sum + ledger.orphans.length ∧
      Coverage.ofLedger ledger =
        { found := signatures.eraseDups.length
          covered := ledger.declarations.countP (0 < ·.coverCount)
          tested := ledger.testTargets.eraseDups.length } := by
  have keeps : Keeps fun log ledger => Ledger.Counted (log.map Posting.line) ledger := by
    constructor
    · exact Ledger.Counted.start
    · intro log ledger cursor line counted stands
      rw [List.map_append]
      exact counted.enterLine stands line
  have counted := keeps.run operations
  rw [Desk.map_line_log_run] at counted
  refine ⟨counted.covered, counted.tested, counted.found, counted.items, ?_⟩
  have signed := counted.found.size_eq (OrderedMap.nodup_eraseDups _) fun name => by
    rw [List.mem_eraseDups, List.count_pos_iff]
  have tested := counted.tested.size_eq (OrderedMap.nodup_eraseDups _) fun name => by
    rw [List.mem_eraseDups, List.count_pos_iff]
  have covered := counted.covered.size_eq (Ledger.nodup_coveredPlaces _) (Ledger.mem_coveredPlaces _)
  rw [Ledger.length_coveredPlaces] at covered
  rw [Coverage.ofLedger, signed, tested, covered]

end ThreatModel
