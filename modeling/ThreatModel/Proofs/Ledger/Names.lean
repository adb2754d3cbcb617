import ThreatModel.Proofs.Ledger.Desk
import ThreatModel.Proofs.Ledger.Owners
import ThreatModel.Proofs.OrderedMap.Collect

/-!
Contract: what the names of a ledger stand for.

Owns:
- the record that a line leaves current, and the registration under its name;
- that names come in the order of first declaration, each for the record that was
  current last under it, in whatever context;
- that texts read one after the other leave each name to the last record declared
  under it.

Does not own: what the records hold.
-/

namespace ThreatModel

open ThreatModel.Text

/-- An update does not show in a view that it keeps. -/
theorem map_modify_of_kept
    {α β : Type}
    {view : α → β}
    {update : α → α}
    (kept : ∀ element, view (update element) = view element)
    (list : List α)
    (place : Nat) :
    (list.modify place update).map view = list.map view := by
  apply List.ext_getElem?
  intro other
  rw [List.getElem?_map, List.getElem?_map, List.getElem?_modify]
  cases list[other]? with
  | none => rfl
  | some element =>
      by_cases own : place = other
      · simp [own, kept]
      · simp [own]

namespace Ledger

/-! ## The current record -/

/-- The names that were declared, in order. -/
def declaredNames (ledger : Ledger) : List String :=
  ledger.declarations.map Declaration.function

/-- The record that the cursor stands in, by its name and its place. -/
def current? (state : Ledger × Cursor) : Option (String × Nat) :=
  state.2.current.bind fun place =>
    state.1.declarations[place]?.map fun declaration => (declaration.function, place)

theorem getElem?_declaredNames_of_current?
    {state : Ledger × Cursor}
    {name : String}
    {place : Nat}
    (isCurrent : current? state = some (name, place)) :
    state.2.current = some place ∧ state.1.declaredNames[place]? = some name := by
  obtain ⟨known, stands, declared⟩ := Option.bind_eq_some_iff.mp isCurrent
  obtain ⟨declaration, found, same⟩ := Option.map_eq_some_iff.mp declared
  cases same
  refine ⟨stands, ?_⟩
  rw [declaredNames, List.getElem?_map, found, Option.map_some]

/-- Registration gives the name of the current record to that record. -/
theorem names_register
    (ledger : Ledger)
    (cursor : Cursor) :
    (ledger.register cursor).names =
      (current? (ledger, cursor)).elim ledger.names fun known =>
        ledger.names.insert known.1 known.2 := by
  unfold register current?
  cases cursor.current with
  | none => rfl
  | some place =>
      simp only [Option.bind_some]
      cases ledger.declarations[place]? <;> rfl

theorem names_apply
    (ledger : Ledger)
    (cursor : Cursor)
    (number : Int)
    (raw : String)
    (entry : Entry) :
    (ledger.apply cursor number raw entry).1.names = ledger.names := by
  cases entry with
  | declaration model function => rfl
  | signature code name =>
      rw [apply, sign]
      dsimp only
      split <;> rfl
  | item item =>
      rw [apply]
      cases cursor.current with
      | none => rfl
      | some place => cases item <;> rfl

section EnterLine

variable (ledger : Ledger) (cursor : Cursor) (line : SourceLine)

/-- Every line registers the record that it leaves current. -/
theorem names_enterLine :
    (enterLine (ledger, cursor) line).1.names =
      (current? (enterLine (ledger, cursor) line)).elim ledger.names fun known =>
        ledger.names.insert known.1 known.2 := by
  have registered (applied : Ledger × Cursor) (kept : applied.1.names = ledger.names) :
      (applied.1.register applied.2).names =
        (current? (applied.1.register applied.2, applied.2)).elim ledger.names fun known =>
          ledger.names.insert known.1 known.2 := by
    rw [names_register, kept, current?, current?, declarations_register]
  cases reads : line.entry? with
  | none =>
      rw [enterLine_of_silent _ reads]
      exact registered (ledger, cursor) rfl
  | some entry =>
      rw [enterLine_of_entry _ reads]
      exact registered (ledger.apply cursor line.number line.raw entry) (names_apply _ _ _ _ _)

/-- A line opens a declaration, which is current then, or it leaves the declared names and the
cursor as they are. -/
theorem declaredNames_enterLine :
    (∃ function,
      (enterLine (ledger, cursor) line).1.declaredNames = ledger.declaredNames ++ [function] ∧
        current? (enterLine (ledger, cursor) line) =
          some (function, ledger.declarations.length)) ∨
      (enterLine (ledger, cursor) line).1.declaredNames = ledger.declaredNames ∧
        (enterLine (ledger, cursor) line).2 = cursor := by
  obtain ⟨model, function, _, declared, moved⟩ | ⟨_, extended, stayed⟩ :=
    enterLine_cases ledger cursor line
  · refine .inl ⟨function, ?_, ?_⟩
    · rw [declaredNames, declared, List.map_append]
      rfl
    · rw [current?, moved, declared]
      simp
  · refine .inr ⟨?_, stayed⟩
    rw [declaredNames, extended]
    cases cursor.current with
    | none => rfl
    | some place =>
        have kept (declaration : Declaration) :
            (declaration.extend cursor.file [line]).function = declaration.function := rfl
        exact map_modify_of_kept kept ledger.declarations place

variable {ledger}

/-- A record keeps its name, whatever is entered. -/
theorem getElem?_declaredNames_enterLine
    {name : String}
    {place : Nat}
    (declared : ledger.declaredNames[place]? = some name) :
    (enterLine (ledger, cursor) line).1.declaredNames[place]? = some name := by
  obtain ⟨function, added, _⟩ | ⟨same, _⟩ := declaredNames_enterLine ledger cursor line
  · have inside := (List.getElem?_eq_some_iff.mp declared).1
    rw [added, List.getElem?_append_left inside]
    exact declared
  · rw [same]
    exact declared

end EnterLine

/-! ## The last record under a name -/

/-- The place that a list of records, by name and place, has last under a name. -/
def latest?
    (name : String)
    (records : List (String × Nat)) :
    Option Nat :=
  ((records.filter (·.1 = name)).getLast?).map Prod.snd

theorem latest?_append_singleton
    (name : String)
    (records : List (String × Nat))
    (record : String × Nat) :
    latest? name (records ++ [record]) =
      if name = record.1 then some record.2 else latest? name records := by
  unfold latest?
  by_cases own : name = record.1
  · simp [own]
  · have elsewhere : ¬record.1 = name := fun same => own same.symm
    simp [own, elsewhere]

/-- Names come in the order of first declaration, each for the record that stands last under it in
a list of records. -/
structure Named
    (records : List (String × Nat))
    (ledger : Ledger) :
    Prop where
  keys_eq : ledger.names.keys = ledger.declaredNames.eraseDups
  latest : ∀ name, ledger.names.get? name = latest? name records
  own : ∀ name place,
    ledger.names.get? name = some place → ledger.declaredNames[place]? = some name

namespace Named

theorem start : Named [] ∅ :=
  ⟨rfl, fun _ => rfl, fun _ _ found => nomatch found⟩

variable {records : List (String × Nat)} {ledger : Ledger} (named : Named records ledger)

include named

section EnterLine

variable (cursor : Cursor) (line : SourceLine)

/-- A name that a line registers has just been declared, or it is a key already. -/
theorem keys_enterLine :
    (Ledger.enterLine (ledger, cursor) line).1.names.keys =
      (Ledger.enterLine (ledger, cursor) line).1.declaredNames.eraseDups := by
  rw [names_enterLine]
  obtain ⟨function, declared, isCurrent⟩ | ⟨kept, _⟩ := declaredNames_enterLine ledger cursor line
  · rw [isCurrent, Option.elim_some, OrderedMap.keys_insert, declared, eraseDups_append_singleton,
      named.keys_eq]
    simp only [List.mem_eraseDups]
  · cases isCurrent : current? (Ledger.enterLine (ledger, cursor) line) with
    | none => rw [Option.elim_none, named.keys_eq, kept]
    | some known =>
        have declared := (getElem?_declaredNames_of_current? isCurrent).2
        rw [kept] at declared
        have isKey : known.1 ∈ ledger.names.keys := by
          rw [named.keys_eq, List.mem_eraseDups]
          exact List.mem_of_getElem? declared
        rw [Option.elim_some, OrderedMap.keys_insert, if_pos isKey, named.keys_eq, kept]

theorem latest_enterLine (name : String) :
    (Ledger.enterLine (ledger, cursor) line).1.names.get? name =
      latest? name (records ++ (current? (Ledger.enterLine (ledger, cursor) line)).toList) := by
  rw [names_enterLine]
  cases current? (Ledger.enterLine (ledger, cursor) line) with
  | none =>
      rw [Option.elim_none, Option.toList_none, List.append_nil]
      exact named.latest name
  | some known =>
      rw [Option.elim_some, OrderedMap.get?_insert, Option.toList_some, latest?_append_singleton,
        named.latest]

theorem own_enterLine
    {name : String}
    {place : Nat}
    (found : (Ledger.enterLine (ledger, cursor) line).1.names.get? name = some place) :
    (Ledger.enterLine (ledger, cursor) line).1.declaredNames[place]? = some name := by
  rw [names_enterLine] at found
  cases isCurrent : current? (Ledger.enterLine (ledger, cursor) line) with
  | none =>
      rw [isCurrent, Option.elim_none] at found
      exact getElem?_declaredNames_enterLine cursor line (named.own name place found)
  | some known =>
      rw [isCurrent, Option.elim_some, OrderedMap.get?_insert] at found
      by_cases same : name = known.1
      · rw [if_pos same, Option.some.injEq] at found
        rw [same, ← found]
        exact (getElem?_declaredNames_of_current? isCurrent).2
      · rw [if_neg same] at found
        exact getElem?_declaredNames_enterLine cursor line (named.own name place found)

/-- The step lemma: the record that a line leaves current is registered last. -/
theorem enterLine :
    Named (records ++ (current? (Ledger.enterLine (ledger, cursor) line)).toList)
      (Ledger.enterLine (ledger, cursor) line).1 where
  keys_eq := named.keys_enterLine cursor line
  latest := named.latest_enterLine cursor line
  own _ _ found := named.own_enterLine cursor line found

end EnterLine

/-- Every name stands for a record. -/
theorem keys_functions :
    ledger.functions.keys = ledger.declaredNames.eraseDups := by
  rw [functions, OrderedMap.keys_filterMap, named.keys_eq]
  intro entry member
  have declared := named.own entry.1 entry.2 (OrderedMap.get?_eq_some_iff.mpr member)
  rw [declaredNames, List.getElem?_map] at declared
  obtain ⟨declaration, atPlace, _⟩ := Option.map_eq_some_iff.mp declared
  exact Option.isSome_of_eq_some atPlace

/-- A name stands for a record that was declared under it. -/
theorem declared_of_get?_functions
    {name : String}
    {declaration : Declaration}
    (found : ledger.functions.get? name = some declaration) :
    declaration ∈ ledger.declarations ∧ declaration.function = name := by
  rw [functions, OrderedMap.get?_filterMap, Option.bind_eq_some_iff] at found
  obtain ⟨place, isPlace, atPlace⟩ := found
  have declared := named.own name place isPlace
  rw [declaredNames, List.getElem?_map, atPlace, Option.map_some, Option.some.injEq] at declared
  exact ⟨List.mem_of_getElem? atPlace, declared⟩

end Named

/-! ## Texts one after the other -/

/-- Every name is that of the last record declared under it. -/
def NamesLast (ledger : Ledger) : Prop :=
  ∀ name, LastPlace name ledger.declaredNames (ledger.names.get? name)

/-- The cursor stands in the last declaration, or in none. -/
def StandsLast (state : Ledger × Cursor) : Prop :=
  ∀ place, state.2.current = some place → place + 1 = state.1.declaredNames.length

section EnterLine

variable {ledger : Ledger} {cursor : Cursor} (standsLast : StandsLast (ledger, cursor))

include standsLast

theorem standsLast_enterLine (line : SourceLine) :
    StandsLast (enterLine (ledger, cursor) line) := by
  intro place stands
  obtain ⟨function, added, isCurrent⟩ | ⟨kept, stayed⟩ := declaredNames_enterLine ledger cursor line
  · have isNew := (getElem?_declaredNames_of_current? isCurrent).1
    rw [stands, Option.some.injEq] at isNew
    rw [isNew, added, List.length_append, declaredNames, List.length_map, List.length_singleton]
  · rw [stayed] at stands
    rw [kept]
    exact standsLast place stands

/-- A line registers nothing but the last record. -/
theorem namesLast_enterLine
    (namesLast : ledger.NamesLast)
    (line : SourceLine) :
    (enterLine (ledger, cursor) line).1.NamesLast := by
  intro name
  rw [names_enterLine]
  obtain ⟨function, added, isCurrent⟩ | ⟨kept, stayed⟩ := declaredNames_enterLine ledger cursor line
  · rw [isCurrent, Option.elim_some, OrderedMap.get?_insert, added]
    by_cases own : name = function
    · rw [if_pos own, own, ← List.length_map Declaration.function]
      exact LastPlace.append_self function ledger.declaredNames
    · rw [if_neg own]
      exact (namesLast name).append_of_ne (Ne.symm own) 1
  · rw [kept]
    cases isCurrent : current? (enterLine (ledger, cursor) line) with
    | none => exact namesLast name
    | some known =>
        obtain ⟨stands, declared⟩ := getElem?_declaredNames_of_current? isCurrent
        rw [stayed] at stands
        rw [kept] at declared
        rw [Option.elim_some, OrderedMap.get?_insert]
        by_cases own : name = known.1
        · rw [if_pos own, own]
          exact LastPlace.of_getElem? declared (standsLast known.2 stands)
        · rw [if_neg own]
          exact namesLast name

end EnterLine

theorem namesLast_read
    {ledger : Ledger}
    (namesLast : ledger.NamesLast)
    (file text : String) :
    (ledger.read file text).NamesLast := by
  have entered (state : Ledger × Cursor)
      (lines : List SourceLine)
      (namesLast : state.1.NamesLast)
      (standsLast : StandsLast state) :
      (lines.foldl enterLine state).1.NamesLast := by
    induction lines generalizing state with
    | nil => exact namesLast
    | cons head rest inductionHypothesis =>
        have next := namesLast_enterLine standsLast namesLast head
        have standsNext := standsLast_enterLine standsLast head
        exact inductionHypothesis (enterLine state head) next standsNext
  rw [read_eq_foldl_enterLine]
  exact entered (ledger, { file }) _ namesLast fun _ stands => nomatch stands

/-- The run lemma of texts: each begins in no declaration, so none takes a name back. -/
theorem namesLast_readAll
    {ledger : Ledger}
    (namesLast : ledger.NamesLast)
    (files : List (String × String)) :
    (ledger.readAll files).NamesLast := by
  unfold readAll
  induction files generalizing ledger with
  | nil => exact namesLast
  | cons head rest inductionHypothesis =>
      exact inductionHypothesis (namesLast_read namesLast head.1 head.2)

theorem namesLast_empty : NamesLast ∅ :=
  fun _ => .never List.not_mem_nil

theorem get?_functions_of_namesLast
    {ledger : Ledger}
    (namesLast : ledger.NamesLast)
    (name : String) :
    ledger.functions.get? name = (ledger.declarations.filter (·.function = name)).getLast? := by
  rw [functions, OrderedMap.get?_filterMap]
  exact (namesLast name).bind_getElem?

end Ledger

/-- The record that was current after a line, by its name and its place. -/
def Posting.current? (posting : Posting) : Option (String × Nat) :=
  Ledger.current? posting.after

namespace Desk

variable {γ : Type} [DecidableEq γ]

/-- Every line, whatever it says, registers the record that it leaves current. -/
theorem keeps_named :
    Keeps fun log ledger => Ledger.Named (log.filterMap Posting.current?) ledger where
  start := .start
  enter {log ledger cursor} line named _ := by
    let posting : Posting := ⟨line, Ledger.enterLine (ledger, cursor) line⟩
    have posted :
        (log ++ [posting]).filterMap Posting.current? =
          log.filterMap Posting.current? ++ posting.current?.toList := by
      rw [List.filterMap_append]
      cases isCurrent : posting.current? <;> simp [isCurrent]
    have entered := named.enterLine cursor line
    exact posted ▸ entered

/-- A run of readings alone is the reading of the texts one after the other. -/
theorem ledger_run_read (files : List (String × String)) :
    (run (files.map fun file => (.read file.1 file.2 : Operation γ))).ledger =
      Ledger.readAll ∅ files := by
  have performed (desk : Desk γ) :
      ((files.map fun file => (.read file.1 file.2 : Operation γ)).foldl perform desk).ledger =
        desk.ledger.readAll files := by
    induction files generalizing desk with
    | nil => rfl
    | cons head rest inductionHypothesis =>
        exact inductionHypothesis (desk.perform (.read head.1 head.2))
  exact performed {}

/-- The names are those that were declared, in the order of first declaration. A name stands for
the record that was current, after the line, in the latest line that left a record of that name
current, and this is a record declared under the name. After readings alone it is the last one. -/
theorem run_names :
    (∀ operations : List (Operation γ),
      let desk := run operations
      desk.ledger.functions.keys = desk.ledger.declaredNames.eraseDups ∧
        ∀ name,
          desk.ledger.names.get? name =
              Ledger.latest? name (desk.log.filterMap Posting.current?) ∧
            desk.ledger.functions.get? name =
              (Ledger.latest? name (desk.log.filterMap Posting.current?)).bind
                (desk.ledger.declarations[·]?) ∧
            ∀ declaration, desk.ledger.functions.get? name = some declaration →
              declaration ∈ desk.ledger.declarations ∧ declaration.function = name) ∧
      ∀ files : List (String × String),
        let ledger := (run (files.map fun file => (.read file.1 file.2 : Operation γ))).ledger
        ∀ name,
          LastPlace name ledger.declaredNames (ledger.names.get? name) ∧
            ledger.functions.get? name =
              (ledger.declarations.filter (·.function = name)).getLast? := by
  refine ⟨fun operations => ?_, fun files => ?_⟩
  · have named := keeps_named.run operations
    refine ⟨named.keys_functions, fun name => ⟨named.latest name, ?_, ?_⟩⟩
    · rw [← named.latest name]
      exact OrderedMap.get?_filterMap _ _ name
    · intro declaration found
      exact named.declared_of_get?_functions found
  · intro ledger name
    have namesLast : ledger.NamesLast := by
      rw [show ledger = Ledger.readAll ∅ files from ledger_run_read files]
      exact Ledger.namesLast_readAll Ledger.namesLast_empty files
    exact ⟨namesLast name, Ledger.get?_functions_of_namesLast namesLast name⟩

/-- Two contexts declare one name, and the older one goes on with a line that says nothing. -/
def contested : List (Operation Bool) :=
  [.enter false ⟨"// ThreatSpec shop for foo", 1⟩,
    .enter true ⟨"// ThreatSpec depot for foo", 1⟩,
    .enter false ⟨"return", 2⟩]

def shopFoo : Declaration :=
  { model := "shop", function := "foo", raw := "// ThreatSpec shop for foo" }

def depotFoo : Declaration :=
  { model := "depot", function := "foo", raw := "// ThreatSpec depot for foo" }

/-- The older context takes the name back from the newer record. -/
theorem shopFoo_takes_back :
    (run contested).ledger.declarations = [shopFoo, depotFoo] ∧
      (run contested).ledger.names.get? "foo" = some 0 ∧
        (run contested).ledger.functions.get? "foo" = some shopFoo ∧
          shopFoo ∈ (run contested).ledger.declarations ∧ shopFoo.function = "foo" := by
  have declared : (run contested).ledger.declarations = [shopFoo, depotFoo] := by
    decide +kernel
  have records :
      (run contested).log.filterMap Posting.current? = [("foo", 0), ("foo", 1), ("foo", 0)] := by
    decide +kernel
  have found : (run contested).ledger.functions.get? "foo" = some shopFoo := by
    decide +kernel
  obtain ⟨isLatest, _, own⟩ := (run_names.1 contested).2 "foo"
  refine ⟨declared, ?_, found, own shopFoo found⟩
  rw [isLatest, records]
  rfl

end Desk

end ThreatModel
