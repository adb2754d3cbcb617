import ThreatModel.Proofs.Ledger.Accounts
import ThreatModel.Proofs.Ledger.Owners
import ThreatModel.Proofs.OrderedMap.Sums

/-!
Contract: one ledger that lines of several texts are entered in, in any order.

Owns:
- the view that a context has of a ledger: its own accounts and orphans, and their
  change by a line, which depends on nothing else;
- sessions of calls through contexts, and who declared and raised what;
- that a session shows each context what a ledger of its own would show, and that
  its tallies are the sums of the tallies of these ledgers.

Does not own: the entry of a line, and what a name stands for.
-/

namespace ThreatModel

/-! ## Views -/

/-- The accounts and orphans of one context. -/
structure View where
  accounts : List Account := []
  orphans : List Orphan := []
deriving DecidableEq, Repr

namespace View

/-- The place of the current account, which is the last. -/
def current (view : View) : Option Nat :=
  if view.accounts = [] then none else some (view.accounts.length - 1)

theorem current_of_split
    (view : View)
    {front : List Account}
    {last : Account}
    (split : view.accounts = front ++ [last]) :
    view.current = some front.length := by
  rw [current, split]
  simp

/-- The view after one more line. -/
def enter
    (file : String)
    (view : View)
    (line : SourceLine) :
    View :=
  match line.entry? with
  | some (.declaration model function) =>
      { view with accounts := view.accounts ++ [.opened model function line] }
  | _ =>
      if view.accounts = [] then
        { view with orphans := view.orphans ++ (line.orphan? file).toList }
      else
        { view with accounts := view.accounts.modifyLast (·.extend file line) }

section Enter

variable {view : View} {line : SourceLine} (file : String)

theorem enter_of_declaration
    {model function : String}
    (reads : line.entry? = some (.declaration model function)) :
    view.enter file line =
      { view with accounts := view.accounts ++ [.opened model function line] } := by
  rw [enter, reads]

theorem enter_of_empty
    (undeclared : line.declares = false)
    (empty : view.accounts = []) :
    view.enter file line =
      { view with orphans := view.orphans ++ (line.orphan? file).toList } := by
  rw [enter, if_pos empty]
  obtain reads | ⟨item, reads⟩ | ⟨code, name, reads⟩ := SourceLine.entry?_of_undeclared undeclared
  · rw [reads]
  · rw [reads]
  · rw [reads]

theorem enter_of_inhabited
    (undeclared : line.declares = false)
    (inhabited : view.accounts ≠ []) :
    view.enter file line =
      { view with accounts := view.accounts.modifyLast (·.extend file line) } := by
  rw [enter, if_neg inhabited]
  obtain reads | ⟨item, reads⟩ | ⟨code, name, reads⟩ := SourceLine.entry?_of_undeclared undeclared
  · rw [reads]
  · rw [reads]
  · rw [reads]

end Enter

/-- The state of a context that has a ledger of its own. -/
def Shows
    (view : View)
    (file : String)
    (state : Ledger × Cursor) :
    Prop :=
  Ledger.Standing file view.accounts view.current view.orphans state

/-- A ledger of one context follows the view of that context. -/
theorem Shows.enterLine
    {view : View}
    {file : String}
    {state : Ledger × Cursor}
    (shows : view.Shows file state)
    (line : SourceLine) :
    (view.enter file line).Shows file (Ledger.enterLine state line) := by
  obtain ⟨model, function, reads⟩ | undeclared := line.declaration_or_undeclared
  · have entered := Ledger.Standing.enterLine_declaration shows reads
    rw [enter_of_declaration file reads]
    simpa [Shows, current] using entered
  by_cases empty : view.accounts = []
  · have noCurrent : view.current = none := by rw [current, if_pos empty]
    rw [Shows, noCurrent] at shows
    rw [enter_of_empty file undeclared empty, Shows, current, if_pos empty]
    exact shows.enterLine_none undeclared
  · obtain ⟨front, last, split⟩ := (List.eq_nil_or_concat view.accounts).resolve_left empty
    rw [List.concat_eq_append] at split
    rw [Shows, view.current_of_split split, split] at shows
    have entered := shows.enterLine_current (by simp) undeclared
    rw [Ledger.modify_length_append] at entered
    have extended : view.accounts.modifyLast (·.extend file line) =
        front ++ [last.extend file line] := by
      rw [split, List.modifyLast_concat]
    rw [enter_of_inhabited file undeclared empty, Shows, current_of_split _ extended, extended]
    exact entered

end View

/-! ## Sessions -/

variable {γ : Type}

/-- A line that is entered through a context. -/
structure Call (γ : Type) where
  context : γ
  line : SourceLine
deriving DecidableEq, Repr

/-- A ledger that contexts share, each with a cursor of its own. The context that a declaration or
an orphan came through stands in a list, at the place that the ledger has it at. -/
structure Session (γ : Type) where
  ledger : Ledger := ∅
  cursors : γ → Cursor
  declaredBy : List γ := []
  raisedBy : List γ := []

namespace Session

def start (files : γ → String) : Session γ where
  cursors context := { file := files context }

/-- The ledger with the cursor of a context. -/
def state
    (session : Session γ)
    (context : γ) :
    Ledger × Cursor :=
  (session.ledger, session.cursors context)

/-- Every declaration and every orphan has its context, and every cursor stands in the last
declaration of its context. -/
structure Sound
    (files : γ → String)
    (session : Session γ) :
    Prop where
  declarers : session.declaredBy.length = session.ledger.accounts.length
  raisers : session.raisedBy.length = session.ledger.orphans.length
  bounded : session.ledger.Bounded
  file : ∀ context, (session.cursors context).file = files context
  place : ∀ context, LastPlace context session.declaredBy (session.cursors context).current

namespace Sound

theorem start (files : γ → String) : Sound files (Session.start files) := by
  constructor
  · rfl
  · rfl
  · intro place _
    rfl
  · intro context
    rfl
  · intro context
    exact .never List.not_mem_nil

theorem standing
    {files : γ → String}
    {session : Session γ}
    (sound : Sound files session)
    (context : γ) :
    Ledger.Standing (files context) session.ledger.accounts (session.cursors context).current
      session.ledger.orphans (session.state context) where
  accounts_eq := rfl
  cursor_eq := by
    rw [← sound.file context]
    rfl
  orphans_eq := rfl
  bounded := sound.bounded

end Sound

variable [DecidableEq γ]

/-- Enters a line through its context, to which belongs all that the ledger then has more. -/
def consume
    (session : Session γ)
    (call : Call γ) :
    Session γ :=
  let next := Ledger.enterLine (session.state call.context) call.line
  let declared := next.1.declarations.length - session.ledger.declarations.length
  let raised := next.1.orphans.length - session.ledger.orphans.length
  { ledger := next.1
    cursors := Function.update session.cursors call.context next.2
    declaredBy := session.declaredBy ++ List.replicate declared call.context
    raisedBy := session.raisedBy ++ List.replicate raised call.context }

def run
    (files : γ → String)
    (calls : List (Call γ)) :
    Session γ :=
  calls.foldl consume (start files)

/-- What the context declared and raised, as the ledger has it. -/
def view
    (session : Session γ)
    (context : γ) :
    View where
  accounts := ownedBy context session.declaredBy session.ledger.accounts
  orphans := ownedBy context session.raisedBy session.ledger.orphans

/-! ## The growth of a ledger by a call -/

/-- What a call makes of the accounts, the cursor and the orphans, and how many accounts and orphans
are new. -/
structure Grows
    (file : String)
    (session : Session γ)
    (call : Call γ)
    (accounts : List Account)
    (current : Option Nat)
    (orphans : List Orphan)
    (declared raised : Nat) :
    Prop where
  standing : Ledger.Standing file accounts current orphans
    (Ledger.enterLine (session.state call.context) call.line)
  accounts_length : accounts.length = session.ledger.accounts.length + declared
  orphans_length : orphans.length = session.ledger.orphans.length + raised
  place : LastPlace call.context (session.declaredBy ++ List.replicate declared call.context) current

namespace Grows

variable
  {files : γ → String}
  {session : Session γ}
  {call : Call γ}
  {accounts : List Account}
  {current : Option Nat}
  {orphans : List Orphan}
  {declared raised : Nat}
  (grows : Grows (files call.context) session call accounts current orphans declared raised)

include grows

theorem accounts_eq : (session.consume call).ledger.accounts = accounts :=
  grows.standing.accounts_eq

theorem orphans_eq : (session.consume call).ledger.orphans = orphans :=
  grows.standing.orphans_eq

theorem declaredBy_eq :
    (session.consume call).declaredBy =
      session.declaredBy ++ List.replicate declared call.context := by
  have accounts_eq :
      (Ledger.enterLine (session.state call.context) call.line).1.accounts = accounts :=
    grows.standing.accounts_eq
  rw [consume, ← Ledger.length_accounts, accounts_eq, grows.accounts_length,
    Ledger.length_accounts, Nat.add_sub_cancel_left]

theorem raisedBy_eq :
    (session.consume call).raisedBy =
      session.raisedBy ++ List.replicate raised call.context := by
  have orphans_eq :
      (Ledger.enterLine (session.state call.context) call.line).1.orphans = orphans :=
    grows.standing.orphans_eq
  rw [consume, orphans_eq, grows.orphans_length, Nat.add_sub_cancel_left]

theorem cursors_eq :
    (session.consume call).cursors =
      Function.update session.cursors call.context ⟨files call.context, current⟩ := by
  rw [← grows.standing.cursor_eq]
  rfl

theorem view_eq (context : γ) :
    (session.consume call).view context =
      ⟨ownedBy context (session.declaredBy ++ List.replicate declared call.context) accounts,
        ownedBy context (session.raisedBy ++ List.replicate raised call.context) orphans⟩ := by
  rw [view, grows.declaredBy_eq, grows.raisedBy_eq, grows.accounts_eq, grows.orphans_eq]

theorem sound (sound : Sound files session) : Sound files (session.consume call) := by
  constructor
  · rw [grows.declaredBy_eq, grows.accounts_eq, grows.accounts_length, List.length_append,
      List.length_replicate, sound.declarers]
  · rw [grows.raisedBy_eq, grows.orphans_eq, grows.orphans_length, List.length_append,
      List.length_replicate, sound.raisers]
  · exact grows.standing.bounded
  · intro context
    rw [grows.cursors_eq]
    by_cases own : context = call.context
    · subst own
      rw [Function.update_self]
    · rw [Function.update_of_ne own]
      exact sound.file context
  · intro context
    rw [grows.cursors_eq, grows.declaredBy_eq]
    by_cases own : context = call.context
    · subst own
      rw [Function.update_self]
      exact grows.place
    · rw [Function.update_of_ne own]
      exact (sound.place context).append_of_ne (fun same => own same.symm) declared

end Grows

/-! ## What a call shows -/

/-- The context of a call sees its line, and no other context sees anything. -/
def Seen
    (files : γ → String)
    (session : Session γ)
    (call : Call γ) :
    Prop :=
  ∀ context,
    (session.consume call).view context =
      if call.context = context then (session.view context).enter (files context) call.line
      else session.view context

namespace Sound

variable {files : γ → String} {session : Session γ}

section Cases

variable {call : Call γ} (sound : Sound files session)

include sound

theorem consume_declaration
    {model function : String}
    (reads : call.line.entry? = some (.declaration model function)) :
    Sound files (session.consume call) ∧ Seen files session call := by
  have entered := (sound.standing call.context).enterLine_declaration reads
  rw [← sound.declarers] at entered
  have place := LastPlace.append_self call.context session.declaredBy
  have grows : Grows (files call.context) session call _ _ _ 1 0 :=
    ⟨entered, List.length_append, rfl, place⟩
  refine ⟨grows.sound sound, ?_⟩
  intro context
  have opened : ownedBy context [call.context] [Account.opened model function call.line] =
      if call.context = context then [Account.opened model function call.line] else [] :=
    ownedBy_replicate call.context [Account.opened model function call.line]
  rw [grows.view_eq, List.replicate_one, ownedBy_append sound.declarers, opened,
    List.replicate_zero, List.append_nil]
  by_cases own : call.context = context
  · subst own
    rw [if_pos rfl, if_pos rfl, View.enter_of_declaration _ reads]
    rfl
  · rw [if_neg own, if_neg own, List.append_nil]
    rfl

theorem consume_current
    {place : Nat}
    (isCurrent : (session.cursors call.context).current = some place)
    (undeclared : call.line.declares = false) :
    Sound files (session.consume call) ∧ Seen files session call := by
  have standing := sound.standing call.context
  have last := sound.place call.context
  rw [isCurrent] at standing last
  have inRange : place < session.ledger.accounts.length := by
    rw [← sound.declarers]
    exact last.lt_length
  have entered := standing.enterLine_current inRange undeclared
  have samePlace : LastPlace call.context (session.declaredBy ++ List.replicate 0 call.context)
      (some place) := by
    rwa [List.replicate_zero, List.append_nil]
  have grows : Grows (files call.context) session call _ _ _ 0 0 :=
    ⟨entered, List.length_modify _ _ _, rfl, samePlace⟩
  refine ⟨grows.sound sound, ?_⟩
  intro context
  obtain ⟨inhabited, altered⟩ := last.ownedBy_modify sound.declarers context
    (·.extend (files call.context) call.line)
  rw [grows.view_eq, List.replicate_zero, List.append_nil, List.append_nil, altered]
  by_cases own : call.context = context
  · subst own
    rw [if_pos rfl, if_pos rfl, View.enter_of_inhabited _ undeclared inhabited]
    rfl
  · rw [if_neg own, if_neg own]
    rfl

theorem consume_none
    (noCurrent : (session.cursors call.context).current = none)
    (undeclared : call.line.declares = false) :
    Sound files (session.consume call) ∧ Seen files session call := by
  have standing := sound.standing call.context
  have never := sound.place call.context
  rw [noCurrent] at standing never
  have entered := standing.enterLine_none undeclared
  have samePlace : LastPlace call.context (session.declaredBy ++ List.replicate 0 call.context)
      none := by
    rwa [List.replicate_zero, List.append_nil]
  have grows : Grows (files call.context) session call _ _ _ 0
      (call.line.orphan? (files call.context)).toList.length :=
    ⟨entered, rfl, List.length_append, samePlace⟩
  refine ⟨grows.sound sound, ?_⟩
  intro context
  rw [grows.view_eq, ownedBy_append sound.raisers, ownedBy_replicate, List.replicate_zero,
    List.append_nil]
  by_cases own : call.context = context
  · subst own
    have empty : (session.view call.context).accounts = [] :=
      never.ownedBy_eq_nil session.ledger.accounts
    rw [if_pos rfl, if_pos rfl, View.enter_of_empty _ undeclared empty]
    rfl
  · rw [if_neg own, if_neg own, List.append_nil]
    rfl

end Cases

/-- The step lemma: a call keeps a session sound, and it is seen by its context alone. -/
theorem consume_seen
    (sound : Sound files session)
    (call : Call γ) :
    Sound files (session.consume call) ∧ Seen files session call := by
  obtain ⟨model, function, reads⟩ | undeclared := call.line.declaration_or_undeclared
  · exact sound.consume_declaration reads
  · cases current : (session.cursors call.context).current with
    | none => exact sound.consume_none current undeclared
    | some place => exact sound.consume_current current undeclared

/-- A context stands in a declaration just when it has one. -/
theorem isSome_current
    (sound : Sound files session)
    (context : γ) :
    (session.cursors context).current.isSome = (session.view context).current.isSome := by
  have place := sound.place context
  cases current : (session.cursors context).current with
  | none =>
      rw [current] at place
      have empty : (session.view context).accounts = [] := place.ownedBy_eq_nil _
      rw [View.current, if_pos empty]
  | some known =>
      rw [current] at place
      have inhabited := (place.ownedBy_modify sound.declarers context id).1
      have notEmpty : ¬(session.view context).accounts = [] := inhabited
      rw [View.current, if_neg notEmpty]
      rfl

end Sound

/-! ## Ledgers of their own -/

/-- The lines that are entered through a context, in order. -/
def history
    (calls : List (Call γ))
    (context : γ) :
    List SourceLine :=
  (calls.filter (·.context = context)).map Call.line

/-- The state of a context whose lines alone are entered in a ledger. -/
def apart
    (files : γ → String)
    (calls : List (Call γ))
    (context : γ) :
    Ledger × Cursor :=
  (history calls context).foldl Ledger.enterLine (∅, { file := files context })

variable [Fintype γ]

/-- A shared ledger next to one ledger for each context: they show each context the same, and the
tallies of the one are the sums of the tallies of the others. -/
structure Agrees
    (files : γ → String)
    (session : Session γ)
    (states : γ → Ledger × Cursor) :
    Prop where
  sound : Sound files session
  shows : ∀ context, (session.view context).Shows (files context) (states context)
  found : OrderedMap.IsSum session.ledger.found fun context => (states context).1.found
  tested : OrderedMap.IsSum session.ledger.tested fun context => (states context).1.tested

namespace Agrees

variable {files : γ → String} {session : Session γ} {states : γ → Ledger × Cursor}

theorem start (files : γ → String) :
    Agrees files (Session.start files) fun context => (∅, { file := files context }) := by
  constructor
  · exact Sound.start files
  · intro context
    constructor
    · rfl
    · rfl
    · rfl
    · exact (Sound.start files).bounded
  · exact OrderedMap.IsSum.empty
  · exact OrderedMap.IsSum.empty

/-- The step lemma: the line is entered in the shared ledger and in the ledger of its context. -/
theorem consume
    (agrees : Agrees files session states)
    (call : Call γ) :
    Agrees files (session.consume call)
      (Function.update states call.context
        (Ledger.enterLine (states call.context) call.line)) := by
  obtain ⟨soundNext, seen⟩ := agrees.sound.consume_seen call
  constructor
  · exact soundNext
  · intro context
    rw [seen]
    by_cases own : call.context = context
    · subst own
      rw [if_pos rfl, Function.update_self]
      exact (agrees.shows call.context).enterLine call.line
    · rw [if_neg own, Function.update_of_ne (fun same => own same.symm)]
      exact agrees.shows context
  · have shared : (session.consume call).ledger.found =
        call.line.signatureName?.elim session.ledger.found session.ledger.found.tally :=
      Ledger.found_enterLine (session.state call.context) call.line
    have separate := Ledger.found_enterLine (states call.context) call.line
    have tallied := agrees.found.elim_tally call.context call.line.signatureName?
    rw [← separate, ← shared] at tallied
    exact tallied.of_update fun state : Ledger × Cursor => state.1.found
  · have sameStanding : (states call.context).2.current.isSome =
        (session.cursors call.context).current.isSome := by
      rw [(agrees.shows call.context).cursor_eq, agrees.sound.isSome_current]
    have shared : (session.consume call).ledger.tested =
        (if (session.cursors call.context).current.isSome then call.line.testedName?
          else none).elim session.ledger.tested session.ledger.tested.tally :=
      Ledger.tested_enterLine (session.state call.context) call.line
    have separate := Ledger.tested_enterLine (states call.context) call.line
    rw [sameStanding] at separate
    have tallied := agrees.tested.elim_tally call.context
      (if (session.cursors call.context).current.isSome then call.line.testedName? else none)
    rw [← separate, ← shared] at tallied
    exact tallied.of_update fun state : Ledger × Cursor => state.1.tested

/-- The run lemma: whatever the order of the calls. -/
theorem run
    (agrees : Agrees files session states)
    (calls : List (Call γ)) :
    Agrees files (calls.foldl Session.consume session) fun context =>
      (history calls context).foldl Ledger.enterLine (states context) := by
  induction calls generalizing session states with
  | nil => exact agrees
  | cons call rest inductionHypothesis =>
      have later := inductionHypothesis (agrees.consume call)
      have entered (context : γ) :
          (history (call :: rest) context).foldl Ledger.enterLine (states context) =
            (history rest context).foldl Ledger.enterLine
              (Function.update states call.context
                (Ledger.enterLine (states call.context) call.line) context) := by
        by_cases own : call.context = context
        · subst own
          simp [history]
        · have elsewhere : ¬context = call.context := fun same => own same.symm
          simp [history, own, elsewhere]
      rw [List.foldl_cons]
      simp only [entered]
      exact later

end Agrees

/-- Whatever the order of the calls, a shared ledger has for each context the declarations, with
their definitions and their cover, and the orphans that a ledger has in which the lines of that
context alone are entered; and it counts signatures and tests as often as these ledgers together. -/
theorem run_isolates
    (files : γ → String)
    (calls : List (Call γ)) :
    let session := run files calls
    let ledgers (context : γ) : Ledger := (apart files calls context).1
    session.declaredBy.length = session.ledger.declarations.length ∧
      session.raisedBy.length = session.ledger.orphans.length ∧
      (∀ context,
        session.view context = ⟨(ledgers context).accounts, (ledgers context).orphans⟩) ∧
      OrderedMap.IsSum session.ledger.found (fun context => (ledgers context).found) ∧
      OrderedMap.IsSum session.ledger.tested (fun context => (ledgers context).tested) := by
  have agrees := (Agrees.start files).run calls
  have declarers := agrees.sound.declarers
  rw [Ledger.length_accounts] at declarers
  refine ⟨declarers, agrees.sound.raisers, ?_, agrees.found, agrees.tested⟩
  intro context
  have shows := agrees.shows context
  have accounts_eq : (apart files calls context).1.accounts = _ := shows.accounts_eq
  have orphans_eq : (apart files calls context).1.orphans = _ := shows.orphans_eq
  rw [accounts_eq, orphans_eq]
  rfl

end Session

end ThreatModel
