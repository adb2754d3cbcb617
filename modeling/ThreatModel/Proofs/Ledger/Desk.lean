import Mathlib.Logic.Function.Basic
import ThreatModel.Proofs.Ledger.Accounts

/-!
Contract: a ledger with the contexts that lines are entered through.

Owns:
- what one line does to the declarations and to its cursor, for any cursor;
- the operations on a ledger that contexts share, and the log of the entered lines,
  each with the state that it left;
- the run lemma: what the entry of a line keeps holds after all operations.

Does not own: what it is that entries keep.
-/

namespace ThreatModel

namespace Ledger

/-! ## One line through any cursor -/

/-- A line opens a declaration, in which its cursor stands from then on, or it extends the
declaration that its cursor stands in. -/
theorem enterLine_cases
    (ledger : Ledger)
    (cursor : Cursor)
    (line : SourceLine) :
    (∃ model function,
      line.entry? = some (.declaration model function) ∧
        (enterLine (ledger, cursor) line).1.declarations =
          ledger.declarations ++ [{ model, function, raw := line.raw }] ∧
        (enterLine (ledger, cursor) line).2 =
          ⟨cursor.file, some ledger.declarations.length⟩) ∨
      line.declares = false ∧
        (enterLine (ledger, cursor) line).1.declarations =
          cursor.current.elim ledger.declarations
            (ledger.declarations.modify · (·.extend cursor.file [line])) ∧
        (enterLine (ledger, cursor) line).2 = cursor := by
  obtain ⟨file, current⟩ := cursor
  have reading :
      Reading file ledger.declarations current ledger.orphans (ledger, ⟨file, current⟩) :=
    ⟨rfl, rfl, rfl⟩
  obtain ⟨model, function, reads⟩ | undeclared := line.declaration_or_undeclared
  · have entered := reading.enterLine_declaration reads
    exact .inl ⟨model, function, reads, entered.declarations_eq, entered.cursor_eq⟩
  · refine .inr ⟨undeclared, ?_⟩
    cases current with
    | none =>
        have entered := reading.enterLine_preamble undeclared
        exact ⟨entered.declarations_eq, entered.cursor_eq⟩
    | some place =>
        exact ⟨ledger.declarations_enterLine_of_undeclared file place undeclared,
          ledger.cursor_enterLine_of_undeclared file place undeclared⟩

end Ledger

/-- The cursor stands in a declaration of the ledger, or in none. -/
def Cursor.StandsIn
    (cursor : Cursor)
    (ledger : Ledger) :
    Prop :=
  ∀ place, cursor.current = some place → place < ledger.declarations.length

namespace Ledger

variable {ledger : Ledger} {cursor : Cursor}

theorem length_declarations_enterLine
    (ledger : Ledger)
    (cursor : Cursor)
    (line : SourceLine) :
    ledger.declarations.length ≤ (enterLine (ledger, cursor) line).1.declarations.length := by
  obtain ⟨model, function, _, declared, _⟩ | ⟨_, extended, _⟩ := enterLine_cases ledger cursor line
  · rw [declared, List.length_append]
    exact Nat.le_add_right _ _
  · rw [extended]
    cases cursor.current with
    | none => exact Nat.le_refl _
    | some place => exact Nat.le_of_eq (List.length_modify _ _ _).symm

/-- A line of any context leaves all cursors where they stand. -/
theorem standsIn_enterLine
    (stands : cursor.StandsIn ledger)
    (other : Cursor)
    (line : SourceLine) :
    cursor.StandsIn (enterLine (ledger, other) line).1 := fun place isCurrent =>
  Nat.lt_of_lt_of_le (stands place isCurrent) (length_declarations_enterLine ledger other line)

theorem standsIn_cursor_enterLine
    (stands : cursor.StandsIn ledger)
    (line : SourceLine) :
    (enterLine (ledger, cursor) line).2.StandsIn (enterLine (ledger, cursor) line).1 := by
  obtain ⟨model, function, _, declared, moved⟩ | ⟨_, _, stayed⟩ := enterLine_cases ledger cursor line
  · intro place isCurrent
    rw [moved] at isCurrent
    obtain rfl := Option.some.inj isCurrent
    rw [declared, List.length_append]
    exact Nat.lt_add_of_pos_right Nat.one_pos
  · rw [stayed]
    exact standsIn_enterLine stands cursor line

end Ledger

/-! ## Operations -/

/-- A line that was entered, with the state that it left. -/
structure Posting where
  line : SourceLine
  after : Ledger × Cursor
deriving DecidableEq, Repr

/-- The postings of lines that are entered one after the other. -/
def Posting.ofLines (state : Ledger × Cursor) : List SourceLine → List Posting
  | [] => []
  | line :: rest =>
      let next := Ledger.enterLine state line
      ⟨line, next⟩ :: ofLines next rest

/-- What is done to a ledger that contexts share. -/
inductive Operation (γ : Type) where
  /-- A context is made, or made anew: for a file, and in a declaration that is there or in none. -/
  | start (context : γ) (file : String) (current : Option Nat)
  /-- A line is entered through a context. -/
  | enter (context : γ) (line : SourceLine)
  /-- A text is read, through a context of its own. -/
  | read (file text : String)

/-- The lines that an operation enters. -/
def Operation.lines {γ : Type} : Operation γ → List SourceLine
  | .start _ _ _ => []
  | .enter _ line => [line]
  | .read _ text => SourceLine.ofText text

/-- A ledger with the cursors of its contexts, and all that was posted. -/
structure Desk (γ : Type) where
  ledger : Ledger := ∅
  cursors : γ → Cursor := fun _ => { file := "" }
  log : List Posting := []

namespace Desk

variable {γ : Type} [DecidableEq γ]

def perform
    (desk : Desk γ) :
    Operation γ → Desk γ
  | .start context file current =>
      let known := current.filter (· < desk.ledger.declarations.length)
      { desk with cursors := Function.update desk.cursors context ⟨file, known⟩ }
  | .enter context line =>
      let next := Ledger.enterLine (desk.ledger, desk.cursors context) line
      { ledger := next.1
        cursors := Function.update desk.cursors context next.2
        log := desk.log ++ [⟨line, next⟩] }
  | .read file text =>
      { desk with
        ledger := desk.ledger.read file text
        log := desk.log ++ Posting.ofLines (desk.ledger, { file }) (SourceLine.ofText text) }

def run (operations : List (Operation γ)) : Desk γ :=
  operations.foldl perform {}

/-! ## The run lemma -/

theorem map_line_ofLines
    (state : Ledger × Cursor)
    (lines : List SourceLine) :
    (Posting.ofLines state lines).map Posting.line = lines := by
  induction lines generalizing state with
  | nil => rfl
  | cons head rest inductionHypothesis =>
      rw [Posting.ofLines, List.map_cons, inductionHypothesis]

/-- The log has the lines of all operations, in order. -/
theorem map_line_log_run (operations : List (Operation γ)) :
    (run operations).log.map Posting.line = operations.flatMap Operation.lines := by
  have posted (desk : Desk γ) :
      (operations.foldl perform desk).log.map Posting.line =
        desk.log.map Posting.line ++ operations.flatMap Operation.lines := by
    induction operations generalizing desk with
    | nil => simp
    | cons operation rest inductionHypothesis =>
        rw [List.foldl_cons, inductionHypothesis, List.flatMap_cons, ← List.append_assoc]
        congr 1
        cases operation with
        | start context file current => simp [perform, Operation.lines]
        | enter context line => simp [perform, Operation.lines]
        | read file text => simp [perform, Operation.lines, map_line_ofLines]
  exact posted {}

/-- What holds of a log and a ledger and is kept by the entry of a line, through any cursor that
stands in the ledger. -/
structure Keeps (kept : List Posting → Ledger → Prop) : Prop where
  start : kept [] ∅
  enter : ∀ {log ledger cursor} line, kept log ledger → cursor.StandsIn ledger →
    kept (log ++ [⟨line, Ledger.enterLine (ledger, cursor) line⟩])
      (Ledger.enterLine (ledger, cursor) line).1

namespace Keeps

variable {kept : List Posting → Ledger → Prop} (keeps : Keeps kept)

include keeps

theorem foldl_enterLine
    {log : List Posting}
    {ledger : Ledger}
    {cursor : Cursor}
    (holds : kept log ledger)
    (stands : cursor.StandsIn ledger)
    (lines : List SourceLine) :
    kept (log ++ Posting.ofLines (ledger, cursor) lines)
        (lines.foldl Ledger.enterLine (ledger, cursor)).1 ∧
      ∀ other : Cursor, other.StandsIn ledger →
        other.StandsIn (lines.foldl Ledger.enterLine (ledger, cursor)).1 := by
  induction lines generalizing log ledger cursor with
  | nil =>
      refine ⟨?_, fun _ standing => standing⟩
      rw [Posting.ofLines, List.append_nil]
      exact holds
  | cons head rest inductionHypothesis =>
      have entered := keeps.enter head holds stands
      have standsNext := Ledger.standsIn_cursor_enterLine stands head
      obtain ⟨later, standsLater⟩ := inductionHypothesis entered standsNext
      rw [List.append_assoc] at later
      exact ⟨later, fun other standing =>
        standsLater other (Ledger.standsIn_enterLine standing cursor head)⟩

/-- The step lemma of operations: all contexts go on standing in the ledger. -/
theorem perform
    {desk : Desk γ}
    (holds : kept desk.log desk.ledger)
    (stand : ∀ context, (desk.cursors context).StandsIn desk.ledger)
    (operation : Operation γ) :
    kept (desk.perform operation).log (desk.perform operation).ledger ∧
      ∀ context, ((desk.perform operation).cursors context).StandsIn
        (desk.perform operation).ledger := by
  cases operation with
  | start context file current =>
      refine ⟨holds, fun other place isCurrent => ?_⟩
      by_cases own : other = context
      · subst own
        simp only [Desk.perform, Function.update_self, Option.filter_eq_some_iff] at isCurrent
        exact of_decide_eq_true isCurrent.2
      · simp only [Desk.perform, Function.update_of_ne own] at isCurrent
        exact stand other place isCurrent
  | enter context line =>
      refine ⟨keeps.enter line holds (stand context), fun other => ?_⟩
      by_cases own : other = context
      · subst own
        simp only [Desk.perform, Function.update_self]
        exact Ledger.standsIn_cursor_enterLine (stand other) line
      · simp only [Desk.perform, Function.update_of_ne own]
        exact Ledger.standsIn_enterLine (stand other) (desk.cursors context) line
  | read file text =>
      have nowhere : Cursor.StandsIn { file } desk.ledger := fun _ isCurrent => nomatch isCurrent
      obtain ⟨read, standing⟩ :=
        keeps.foldl_enterLine holds nowhere (SourceLine.ofText text)
      simp only [Desk.perform, Ledger.read_eq_foldl_enterLine]
      exact ⟨read, fun context => standing _ (stand context)⟩

/-- The run lemma, by induction on the operations. -/
theorem run (operations : List (Operation γ)) :
    kept (Desk.run operations).log (Desk.run operations).ledger := by
  have performed (desk : Desk γ)
      (holds : kept desk.log desk.ledger)
      (stand : ∀ context, (desk.cursors context).StandsIn desk.ledger) :
      kept (operations.foldl Desk.perform desk).log (operations.foldl Desk.perform desk).ledger := by
    induction operations generalizing desk with
    | nil => exact holds
    | cons operation rest inductionHypothesis =>
        obtain ⟨next, standNext⟩ := keeps.perform holds stand operation
        exact inductionHypothesis (desk.perform operation) next standNext
  exact performed {} keeps.start fun _ _ isCurrent => nomatch isCurrent

end Keeps

end Desk

end ThreatModel
