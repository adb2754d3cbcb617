import ThreatModel.Ledger.Basic

/-!
Contract: the reading of a text as one step for each of its lines.

Owns:
- a line with its number, and what it says;
- the entry of one line as a step on ledger and cursor, and the reading of a text
  as the run of these steps;
- the parts of a ledger that an entry leaves alone.

Does not own: what a text adds to the declarations.
-/

namespace ThreatModel

open ThreatModel.Text

/-- A line of a text with its number. -/
structure SourceLine where
  text : String
  number : Int
deriving DecidableEq, Repr

namespace SourceLine

variable (line : SourceLine)

def entry? : Option Entry :=
  Entry.ofLine? line.text

def raw : String :=
  Ledger.rawLine line.text

def declares : Bool :=
  match line.entry? with
  | some (.declaration _ _) => true
  | _ => false

/-- What is left for a line to say that declares nothing. -/
theorem entry?_of_undeclared
    {line : SourceLine}
    (undeclared : line.declares = false) :
    line.entry? = none ∨ (∃ item, line.entry? = some (.item item)) ∨
      ∃ code name, line.entry? = some (.signature code name) := by
  unfold declares at undeclared
  cases reads : line.entry? with
  | none => exact .inl rfl
  | some entry =>
      cases entry with
      | declaration model function =>
          rw [reads] at undeclared
          cases undeclared
      | item item => exact .inr (.inl ⟨item, rfl⟩)
      | signature code name => exact .inr (.inr ⟨code, name, rfl⟩)

/-- Lines in order, numbered from `first` on. -/
def numbered
    (first : Nat)
    (lines : List String) :
    List SourceLine :=
  (lines.zipIdx first).map fun line => ⟨line.1, line.2⟩

theorem numbered_cons
    (first : Nat)
    (head : String)
    (rest : List String) :
    numbered first (head :: rest) = ⟨head, first⟩ :: numbered (first + 1) rest :=
  rfl

theorem numbered_append
    (first : Nat)
    (front back : List String) :
    numbered first (front ++ back) =
      numbered first front ++ numbered (first + front.length) back := by
  simp [numbered, List.zipIdx_append]

/-- The lines of a text, numbered from one. -/
def ofText (text : String) : List SourceLine :=
  numbered 1 (textLines text)

end SourceLine

namespace Ledger

/-- The entry of one line as a step. -/
def enterLine
    (state : Ledger × Cursor)
    (line : SourceLine) :
    Ledger × Cursor :=
  state.1.consume state.2 line.number line.text

theorem consumeLines_eq_foldl_enterLine
    (ledger : Ledger)
    (cursor : Cursor)
    (first : Nat)
    (lines : List String) :
    ledger.consumeLines cursor first lines =
      (SourceLine.numbered first lines).foldl enterLine (ledger, cursor) := by
  induction lines generalizing ledger cursor first with
  | nil => rfl
  | cons head rest inductionHypothesis =>
      rw [SourceLine.numbered_cons, List.foldl_cons, ← inductionHypothesis]
      rfl

theorem read_eq_foldl_enterLine
    (ledger : Ledger)
    (file text : String) :
    ledger.read file text =
      ((SourceLine.ofText text).foldl enterLine (ledger, { file })).1 := by
  have run := consumeLines_eq_foldl_enterLine ledger { file } 1 (textLines text)
  exact congrArg Prod.fst run

/-! ## What an entry leaves alone -/

@[simp] theorem declarations_register
    (ledger : Ledger)
    (cursor : Cursor) :
    (ledger.register cursor).declarations = ledger.declarations := by
  unfold register
  split <;> rfl

@[simp] theorem orphans_register
    (ledger : Ledger)
    (cursor : Cursor) :
    (ledger.register cursor).orphans = ledger.orphans := by
  unfold register
  split <;> rfl

theorem declarations_enter
    (ledger : Ledger)
    (place : Nat)
    (item : Entry.Item)
    (raw : String) :
    (ledger.enter place item raw).declarations =
      ledger.declarations.modify place (·.add item raw) := by
  cases item <;> rfl

@[simp] theorem orphans_enter
    (ledger : Ledger)
    (place : Nat)
    (item : Entry.Item)
    (raw : String) :
    (ledger.enter place item raw).orphans = ledger.orphans := by
  cases item <;> rfl

@[simp] theorem orphans_sign
    (ledger : Ledger)
    (cursor : Cursor)
    (number : Int)
    (code name : String) :
    (ledger.sign cursor number code name).orphans = ledger.orphans := by
  unfold sign
  dsimp only
  split <;> rfl

/-! ## The step by what the line says -/

variable (state : Ledger × Cursor) {line : SourceLine}

theorem enterLine_of_silent (silent : line.entry? = none) :
    enterLine state line = (state.1.register state.2, state.2) := by
  unfold SourceLine.entry? at silent
  simp only [enterLine, consume, silent]

theorem enterLine_of_entry
    {entry : Entry}
    (reads : line.entry? = some entry) :
    enterLine state line =
      let applied := state.1.apply state.2 line.number line.raw entry
      (applied.1.register applied.2, applied.2) := by
  unfold SourceLine.entry? at reads
  simp only [enterLine, consume, reads]
  rfl

end Ledger

end ThreatModel
