import ThreatModel.Proofs.Ledger.Reading

/-!
Contract: what one line does to the whole of a ledger.

Owns:
- the account of a declaration: its record with the count of its cover;
- what a line of each kind changes in the accounts, the orphans and the tallies,
  wherever the cursor stands.

Does not own: runs over many lines, and what a name stands for.
-/

namespace ThreatModel

/-- A declaration with the count of its cover; there is no count where nothing covers it. -/
structure Account where
  declaration : Declaration
  cover : Option Nat
deriving DecidableEq, Repr

namespace SourceLine

variable (line : SourceLine)

/-- The line's record counts as cover of its declaration. -/
def covers : Bool :=
  match line.entry? with
  | some (.item (.test _ _ _)) => false
  | some (.item _) => true
  | _ => false

/-- The name of the signature on the line. -/
def signatureName? : Option String :=
  match line.entry? with
  | some (.signature _ name) => some name
  | _ => none

/-- The function that the line names as tested. -/
def testedName? : Option String :=
  match line.entry? with
  | some (.item (.test function _ _)) => some function
  | _ => none

/-- A line opens a declaration, or it declares nothing. -/
theorem declaration_or_undeclared :
    (∃ model function, line.entry? = some (.declaration model function)) ∨
      line.declares = false := by
  unfold declares
  cases reads : line.entry? with
  | none => exact .inr rfl
  | some entry =>
      cases entry with
      | declaration model function => exact .inl ⟨model, function, rfl⟩
      | item item => exact .inr rfl
      | signature code name => exact .inr rfl

end SourceLine

/-- The account after one more line under its declaration. -/
def Account.extend
    (account : Account)
    (file : String)
    (line : SourceLine) :
    Account where
  declaration := account.declaration.extend file [line]
  cover := if line.covers then some (account.cover.getD 0 + 1) else account.cover

/-- The account that a declaration line opens. -/
def Account.opened
    (model function : String)
    (line : SourceLine) :
    Account where
  declaration := { model, function, raw := line.raw }
  cover := none

namespace Ledger

/-- The accounts of all declarations, in order. -/
def accounts (ledger : Ledger) : List Account :=
  ledger.declarations.zipIdx.map fun (declaration, place) =>
    ⟨declaration, ledger.covered.get? place⟩

@[simp] theorem length_accounts (ledger : Ledger) :
    ledger.accounts.length = ledger.declarations.length := by
  simp [accounts]

theorem getElem?_accounts
    (ledger : Ledger)
    (place : Nat) :
    ledger.accounts[place]? =
      ledger.declarations[place]?.map (⟨·, ledger.covered.get? place⟩) := by
  simp [accounts, List.getElem?_zipIdx, Function.comp_def]

/-- No place without a declaration is covered. -/
def Bounded (ledger : Ledger) : Prop :=
  ∀ place, ledger.declarations.length ≤ place → ledger.covered.get? place = none

/-! ## Tallies -/

section Tallies

variable (ledger : Ledger) (cursor : Cursor)

@[simp] theorem covered_register : (ledger.register cursor).covered = ledger.covered := by
  unfold register
  split <;> rfl

@[simp] theorem found_register : (ledger.register cursor).found = ledger.found := by
  unfold register
  split <;> rfl

@[simp] theorem tested_register : (ledger.register cursor).tested = ledger.tested := by
  unfold register
  split <;> rfl

@[simp] theorem found_enter
    (place : Nat)
    (item : Entry.Item)
    (raw : String) :
    (ledger.enter place item raw).found = ledger.found := by
  cases item <;> rfl

section Sign

variable (number : Int) (code name : String)

@[simp] theorem covered_sign : (ledger.sign cursor number code name).covered = ledger.covered := by
  unfold sign
  dsimp only
  split <;> rfl

@[simp] theorem found_sign :
    (ledger.sign cursor number code name).found = ledger.found.tally name := by
  unfold sign
  dsimp only
  split <;> rfl

@[simp] theorem tested_sign : (ledger.sign cursor number code name).tested = ledger.tested := by
  unfold sign
  dsimp only
  split <;> rfl

end Sign

end Tallies

variable (state : Ledger × Cursor) (line : SourceLine)

/-- Every signature counts, whether or not it defines a declaration. -/
theorem found_enterLine :
    (enterLine state line).1.found =
      line.signatureName?.elim state.1.found state.1.found.tally := by
  unfold SourceLine.signatureName?
  cases reads : line.entry? with
  | none => simp [enterLine_of_silent state reads]
  | some entry =>
      rw [enterLine_of_entry state reads]
      cases entry with
      | declaration model function => simp [apply, declare]
      | signature code name => simp [apply]
      | item item =>
          cases current : state.2.current with
          | none => simp [apply, current]
          | some place => simp [apply, current]

/-- Only signatures are found. -/
theorem found_foldl_enterLine
    {lines : List SourceLine}
    (unsigned : ∀ line ∈ lines, line.signatureName? = none) :
    (lines.foldl enterLine state).1.found = state.1.found := by
  induction lines generalizing state with
  | nil => rfl
  | cons head rest inductionHypothesis =>
      have headUnsigned := unsigned head List.mem_cons_self
      have later := inductionHypothesis (enterLine state head) fun line member =>
        unsigned line (List.mem_cons_of_mem head member)
      rw [List.foldl_cons, later, found_enterLine, headUnsigned, Option.elim_none]

/-- A test counts if it stands below a declaration. -/
theorem tested_enterLine :
    (enterLine state line).1.tested =
      (if state.2.current.isSome then line.testedName? else none).elim state.1.tested
        state.1.tested.tally := by
  unfold SourceLine.testedName?
  cases reads : line.entry? with
  | none => simp [enterLine_of_silent state reads]
  | some entry =>
      rw [enterLine_of_entry state reads]
      cases entry with
      | declaration model function => simp [apply, declare]
      | signature code name => simp [apply]
      | item item =>
          cases current : state.2.current with
          | none => simp [apply, current]
          | some place => cases item <;> simp [apply, current, enter]

/-! ## The current declaration -/

/-- A signature that is its own defines the declaration that the cursor stands in. -/
theorem declarations_sign
    (ledger : Ledger)
    (file : String)
    (place : Nat)
    (number : Int)
    (code name : String) :
    (ledger.sign ⟨file, some place⟩ number code name).declarations =
      ledger.declarations.modify place fun declaration =>
        if Entry.signatureMatches name declaration.function then
          { declaration with definition := some ⟨code, file, number⟩ }
        else declaration := by
  apply List.ext_getElem?
  intro other
  rw [List.getElem?_modify]
  cases current : ledger.declarations[place]? with
  | none =>
      by_cases same : place = other
      · subst same
        simp [sign, signatureTarget?, current]
      · simp [sign, signatureTarget?, current, same]
  | some declaration =>
      by_cases own : Entry.signatureMatches name declaration.function = true
      · by_cases same : place = other
        · subst same
          simp [sign, signatureTarget?, current, own]
        · simp [sign, signatureTarget?, current, own, same]
      · by_cases same : place = other
        · subst same
          simp [sign, signatureTarget?, current, own]
        · simp [sign, signatureTarget?, current, own, same]

section Current

variable {line : SourceLine} (ledger : Ledger) (file : String) (place : Nat)

theorem declarations_enterLine_of_undeclared (undeclared : line.declares = false) :
    (enterLine (ledger, ⟨file, some place⟩) line).1.declarations =
      ledger.declarations.modify place (·.extend file [line]) := by
  simp only [Declaration.extend_singleton]
  obtain reads | ⟨item, reads⟩ | ⟨code, name, reads⟩ := SourceLine.entry?_of_undeclared undeclared
  · rw [enterLine_of_silent _ reads, declarations_register, reads]
    exact (List.modify_id place ledger.declarations).symm
  · rw [enterLine_of_entry _ reads, reads]
    simp only [apply, declarations_register, declarations_enter]
  · rw [enterLine_of_entry _ reads, reads]
    simp only [apply, declarations_register, declarations_sign]

theorem covered_enterLine_of_undeclared (undeclared : line.declares = false) :
    (enterLine (ledger, ⟨file, some place⟩) line).1.covered =
      if line.covers then ledger.covered.tally place else ledger.covered := by
  unfold SourceLine.covers
  obtain reads | ⟨item, reads⟩ | ⟨code, name, reads⟩ := SourceLine.entry?_of_undeclared undeclared
  · simp [enterLine_of_silent _ reads, reads]
  · rw [enterLine_of_entry _ reads, reads]
    cases item <;> simp [apply, enter]
  · simp [enterLine_of_entry _ reads, reads, apply]

theorem orphans_enterLine_of_undeclared (undeclared : line.declares = false) :
    (enterLine (ledger, ⟨file, some place⟩) line).1.orphans = ledger.orphans := by
  obtain reads | ⟨item, reads⟩ | ⟨code, name, reads⟩ := SourceLine.entry?_of_undeclared undeclared
  · simp [enterLine_of_silent _ reads]
  · simp [enterLine_of_entry _ reads, apply]
  · simp [enterLine_of_entry _ reads, apply]

theorem cursor_enterLine_of_undeclared (undeclared : line.declares = false) :
    (enterLine (ledger, ⟨file, some place⟩) line).2 = ⟨file, some place⟩ := by
  obtain reads | ⟨item, reads⟩ | ⟨code, name, reads⟩ := SourceLine.entry?_of_undeclared undeclared
  · rw [enterLine_of_silent _ reads]
  · rw [enterLine_of_entry _ reads]
    rfl
  · rw [enterLine_of_entry _ reads]
    rfl

end Current

/-! ## Accounts and orphans -/

/-- What a state shows of the text that its cursor is in: all accounts, the place of the current
one, and all orphans. -/
structure Standing
    (file : String)
    (accounts : List Account)
    (current : Option Nat)
    (orphans : List Orphan)
    (state : Ledger × Cursor) :
    Prop where
  accounts_eq : state.1.accounts = accounts
  cursor_eq : state.2 = ⟨file, current⟩
  orphans_eq : state.1.orphans = orphans
  bounded : state.1.Bounded

namespace Standing

variable
  {state : Ledger × Cursor}
  {line : SourceLine}
  {file : String}
  {accounts : List Account}
  {orphans : List Orphan}

/-- A declaration line opens an account, and the cursor stands in it from then on. -/
theorem enterLine_declaration
    {current : Option Nat}
    {model function : String}
    (standing : Standing file accounts current orphans state)
    (reads : line.entry? = some (.declaration model function)) :
    Standing file (accounts ++ [.opened model function line]) (some accounts.length) orphans
      (enterLine state line) := by
  obtain ⟨ledger, cursor⟩ := state
  obtain rfl : ledger.accounts = accounts := standing.accounts_eq
  obtain rfl : cursor = ⟨file, current⟩ := standing.cursor_eq
  have bounded : ledger.Bounded := standing.bounded
  rw [enterLine_of_entry _ reads]
  constructor
  · have uncovered := bounded ledger.declarations.length (Nat.le_refl _)
    simp [Ledger.accounts, apply, declare, Account.opened, List.zipIdx_append, uncovered]
  · simp [apply, declare]
  · simpa [apply, declare] using standing.orphans_eq
  · intro place beyond
    have alsoBeyond : ledger.declarations.length ≤ place := by
      simp only [apply, declare, declarations_register, List.length_append] at beyond
      omega
    simpa [apply, declare] using bounded place alsoBeyond

/-- Any other line extends the account that the cursor stands in. -/
theorem enterLine_current
    {place : Nat}
    (standing : Standing file accounts (some place) orphans state)
    (inRange : place < accounts.length)
    (undeclared : line.declares = false) :
    Standing file (accounts.modify place (·.extend file line)) (some place) orphans
      (enterLine state line) := by
  obtain ⟨ledger, cursor⟩ := state
  obtain rfl : ledger.accounts = accounts := standing.accounts_eq
  obtain rfl : cursor = ⟨file, some place⟩ := standing.cursor_eq
  have declarations_eq := ledger.declarations_enterLine_of_undeclared file place undeclared
  have covered_eq := ledger.covered_enterLine_of_undeclared file place undeclared
  rw [length_accounts] at inRange
  constructor
  · apply List.ext_getElem?
    intro other
    rw [List.getElem?_modify, getElem?_accounts, getElem?_accounts, declarations_eq, covered_eq,
      List.getElem?_modify]
    cases ledger.declarations[other]? with
    | none => simp
    | some declaration =>
        by_cases same : place = other
        · subst same
          by_cases covers : line.covers = true
          · simp [Account.extend, covers, OrderedMap.tally, OrderedMap.get?_alter]
          · simp [Account.extend, covers]
        · have elsewhere : ¬other = place := fun equal => same equal.symm
          by_cases covers : line.covers = true
          · simp [covers, OrderedMap.tally, OrderedMap.get?_alter, same, elsewhere]
          · simp [covers, same]
  · exact ledger.cursor_enterLine_of_undeclared file place undeclared
  · rw [ledger.orphans_enterLine_of_undeclared file place undeclared]
    exact standing.orphans_eq
  · intro other beyond
    rw [declarations_eq, List.length_modify] at beyond
    have uncovered := standing.bounded other beyond
    have elsewhere : ¬other = place := by omega
    rw [covered_eq]
    split
    · rw [OrderedMap.tally, OrderedMap.get?_alter, if_neg elsewhere]
      exact uncovered
    · exact uncovered

/-- Where the cursor stands in no account, an item becomes an orphan. -/
theorem enterLine_none
    (standing : Standing file accounts none orphans state)
    (undeclared : line.declares = false) :
    Standing file accounts none (orphans ++ (line.orphan? file).toList) (enterLine state line) := by
  obtain ⟨ledger, cursor⟩ := state
  obtain rfl : ledger.accounts = accounts := standing.accounts_eq
  obtain rfl : cursor = ⟨file, none⟩ := standing.cursor_eq
  obtain rfl : ledger.orphans = orphans := standing.orphans_eq
  have reading : Reading file ledger.declarations none ledger.orphans (ledger, ⟨file, none⟩) :=
    ⟨rfl, rfl, rfl⟩
  have entered := reading.enterLine_preamble undeclared
  have covered_eq : (enterLine (ledger, ⟨file, none⟩) line).1.covered = ledger.covered := by
    obtain reads | ⟨item, reads⟩ | ⟨code, name, reads⟩ := SourceLine.entry?_of_undeclared undeclared
    · rw [enterLine_of_silent _ reads, covered_register]
    · rw [enterLine_of_entry _ reads]
      simp [apply]
    · rw [enterLine_of_entry _ reads]
      simp [apply]
  constructor
  · rw [Ledger.accounts, entered.declarations_eq, covered_eq, Ledger.accounts]
  · exact entered.cursor_eq
  · exact entered.orphans_eq
  · intro place beyond
    rw [entered.declarations_eq] at beyond
    rw [covered_eq]
    exact standing.bounded place beyond

end Standing

end Ledger

end ThreatModel
