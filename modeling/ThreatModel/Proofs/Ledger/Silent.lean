import ThreatModel.Proofs.Ledger.Desk
import ThreatModel.Proofs.OrderedMap.Rows
import ThreatModel.Proofs.Text.Lines

/-!
Contract: lines that say nothing do no more than move the lines below them.

Owns:
- other numbers for lines, and for what a ledger has of them beyond another ledger;
- that renumbered lines are entered as the lines are, under their other numbers;
- that every line leaves the current record registered, so that a silent line finds
  nothing to do;
- what a silent line in a text, wherever it stands, changes.

Does not own: which lines say nothing.
-/

namespace ThreatModel

open ThreatModel.Text

/-! ## The later part of a list -/

section MapBehind

variable {α : Type} (count : Nat) (change : α → α)

/-- The list with its elements changed, but for the first ones. -/
def mapBehind (list : List α) : List α :=
  list.mapIdx fun place element => if place < count then element else change element

@[simp] theorem length_mapBehind (list : List α) :
    (mapBehind count change list).length = list.length :=
  List.length_mapIdx

theorem mapBehind_of_length_le
    {list : List α}
    (short : list.length ≤ count) :
    mapBehind count change list = list := by
  apply List.ext_getElem?
  intro place
  rw [mapBehind, List.getElem?_mapIdx]
  by_cases within : place < count
  · simp [within]
  · rw [List.getElem?_eq_none (by omega), Option.map_none]

variable {count}

theorem getElem?_mapBehind
    {place : Nat}
    (behind : count ≤ place)
    (list : List α) :
    (mapBehind count change list)[place]? = list[place]?.map change := by
  simp only [mapBehind, List.getElem?_mapIdx, if_neg (Nat.not_lt.mpr behind)]

theorem mapBehind_append_singleton
    {front : List α}
    (long : count ≤ front.length)
    (last : α) :
    mapBehind count change (front ++ [last]) = mapBehind count change front ++ [change last] := by
  rw [mapBehind, mapBehind, List.mapIdx_append, List.mapIdx_singleton,
    if_neg (by omega)]

/-- What is changed behind the first elements may be updated before or after. -/
theorem modify_mapBehind
    {place : Nat}
    (behind : count ≤ place)
    {update other : α → α}
    (agree : ∀ element, other (change element) = change (update element))
    (list : List α) :
    (mapBehind count change list).modify place other =
      mapBehind count change (list.modify place update) := by
  apply List.ext_getElem?
  intro index
  rw [List.getElem?_modify, mapBehind, mapBehind, List.getElem?_mapIdx, List.getElem?_mapIdx,
    List.getElem?_modify]
  cases list[index]? with
  | none => rfl
  | some element =>
      by_cases own : place = index
      · subst own
        simp [Nat.not_lt.mpr behind, agree]
      · simp [own]

end MapBehind

/-! ## Other numbers -/

section Renumber

variable (numbering : Int → Int)

def SourceLine.renumber (line : SourceLine) : SourceLine :=
  { line with number := numbering line.number }

def Definition.renumber (definition : Definition) : Definition :=
  { definition with line := numbering definition.line }

def Declaration.renumber (declaration : Declaration) : Declaration :=
  { declaration with definition := declaration.definition.map (·.renumber numbering) }

def Orphan.renumber (orphan : Orphan) : Orphan :=
  { orphan with line := numbering orphan.line }

end Renumber

/-- The ledger with other line numbers in the declarations and orphans that `start` does not have
yet. -/
def Ledger.renumberSince
    (ledger start : Ledger)
    (numbering : Int → Int) :
    Ledger :=
  { ledger with
    declarations :=
      mapBehind start.declarations.length (·.renumber numbering) ledger.declarations
    orphans := mapBehind start.orphans.length (·.renumber numbering) ledger.orphans }

theorem Declaration.add_renumber
    (numbering : Int → Int)
    (item : Entry.Item)
    (raw : String)
    (declaration : Declaration) :
    (declaration.renumber numbering).add item raw =
      (declaration.add item raw).renumber numbering := by
  cases item <;> rfl

namespace Ledger

theorem renumberSince_self
    (ledger : Ledger)
    (numbering : Int → Int) :
    ledger.renumberSince ledger numbering = ledger := by
  simp only [renumberSince, mapBehind_of_length_le _ _ (Nat.le_refl _)]

/-! ## The entry of a renumbered line -/

/-- Ledger and cursor came about after `start`: nothing has gone since, and the cursor stands in no
declaration from before. -/
structure Since
    (start ledger : Ledger)
    (cursor : Cursor) :
    Prop where
  declarations_le : start.declarations.length ≤ ledger.declarations.length
  orphans_le : start.orphans.length ≤ ledger.orphans.length
  le_current : ∀ place, cursor.current = some place → start.declarations.length ≤ place

theorem since_fresh
    (ledger : Ledger)
    (file : String) :
    ledger.Since ledger { file } :=
  ⟨Nat.le_refl _, Nat.le_refl _, fun _ stands => nomatch stands⟩

theorem length_declarations_sign
    (ledger : Ledger)
    (cursor : Cursor)
    (number : Int)
    (code name : String) :
    (ledger.sign cursor number code name).declarations.length = ledger.declarations.length := by
  unfold sign
  dsimp only
  split
  · rfl
  · exact List.length_modify _ _ _

section Entry

variable {start ledger : Ledger} {cursor : Cursor} (since : start.Since ledger cursor)
  (numbering : Int → Int)

include since

theorem register_renumberSince :
    (ledger.renumberSince start numbering).register cursor =
      (ledger.register cursor).renumberSince start numbering := by
  unfold register
  cases stands : cursor.current with
  | none => rfl
  | some place =>
      have declared := getElem?_mapBehind (Declaration.renumber numbering)
        (since.le_current place stands) ledger.declarations
      simp only [renumberSince, Option.bind_some, declared]
      cases ledger.declarations[place]? <;> rfl

theorem sign_renumberSince
    (number : Int)
    (code name : String) :
    (ledger.renumberSince start numbering).sign cursor (numbering number) code name =
      (ledger.sign cursor number code name).renumberSince start numbering := by
  cases stands : cursor.current with
  | none =>
      simp only [sign, signatureTarget?, stands]
      rfl
  | some place =>
      have behind := since.le_current place stands
      have declared := getElem?_mapBehind (Declaration.renumber numbering) behind
        ledger.declarations
      simp only [sign, signatureTarget?, renumberSince, stands, Option.bind_some, declared]
      cases ledger.declarations[place]? with
      | none => rfl
      | some declaration =>
          have sameFunction : (declaration.renumber numbering).function = declaration.function := rfl
          simp only [Option.map_some, Option.bind_some, sameFunction]
          by_cases own : Entry.signatureMatches name declaration.function = true
          · simp only [if_pos own]
            congr 1
            refine modify_mapBehind _ behind ?_ ledger.declarations
            intro found
            rfl
          · simp only [if_neg own]

theorem enter_renumberSince
    {place : Nat}
    (stands : cursor.current = some place)
    (item : Entry.Item)
    (raw : String) :
    (ledger.renumberSince start numbering).enter place item raw =
      (ledger.enter place item raw).renumberSince start numbering := by
  have added :
      (mapBehind start.declarations.length (·.renumber numbering) ledger.declarations).modify place
          (·.add item raw) =
        mapBehind start.declarations.length (·.renumber numbering)
          (ledger.declarations.modify place (·.add item raw)) :=
    modify_mapBehind _ (since.le_current place stands)
      (Declaration.add_renumber numbering item raw) ledger.declarations
  cases item <;> simp only [enter, renumberSince, added]

theorem apply_renumberSince
    (number : Int)
    (raw : String)
    (entry : Entry) :
    (ledger.renumberSince start numbering).apply cursor (numbering number) raw entry =
      ((ledger.apply cursor number raw entry).1.renumberSince start numbering,
        (ledger.apply cursor number raw entry).2) := by
  cases entry with
  | declaration model function =>
      have opened := mapBehind_append_singleton (Declaration.renumber numbering)
        since.declarations_le { model, function, raw }
      simp only [apply, declare, renumberSince, opened, length_mapBehind]
      rfl
  | signature code name => exact congrArg (·, cursor) (sign_renumberSince since numbering _ _ _)
  | item item =>
      cases stands : cursor.current with
      | some place =>
          simp only [apply, stands, enter_renumberSince since numbering stands]
      | none =>
          have raised := mapBehind_append_singleton (Orphan.renumber numbering)
            since.orphans_le ⟨cursor.file, number, item.kind, raw⟩
          simp only [apply, stands, renumberSince, raised]
          rfl

theorem since_apply
    (number : Int)
    (raw : String)
    (entry : Entry) :
    start.Since (ledger.apply cursor number raw entry).1
      (ledger.apply cursor number raw entry).2 := by
  obtain ⟨declarations_le, orphans_le, le_current⟩ := since
  cases entry with
  | declaration model function =>
      refine ⟨?_, orphans_le, ?_⟩
      · simpa [apply, declare] using Nat.le_succ_of_le declarations_le
      · rintro place ⟨⟩
        exact declarations_le
  | signature code name =>
      exact ⟨by simpa [apply, length_declarations_sign], by simpa [apply], le_current⟩
  | item item =>
      cases stands : cursor.current with
      | some place =>
          simp only [apply, stands]
          exact ⟨by simpa [declarations_enter], by simpa, le_current⟩
      | none =>
          simp only [apply, stands]
          exact ⟨declarations_le, by simpa using Nat.le_succ_of_le orphans_le, le_current⟩

theorem since_register : start.Since (ledger.register cursor) cursor :=
  ⟨by simpa using since.declarations_le, by simpa using since.orphans_le, since.le_current⟩

theorem since_enterLine (line : SourceLine) :
    start.Since (enterLine (ledger, cursor) line).1 (enterLine (ledger, cursor) line).2 := by
  cases reads : line.entry? with
  | none =>
      rw [enterLine_of_silent _ reads]
      exact since_register since
  | some entry =>
      rw [enterLine_of_entry _ reads]
      exact since_register (since_apply since _ _ _)

/-- The entry of a renumbered line is the entry of the line, renumbered. -/
theorem enterLine_renumberSince (line : SourceLine) :
    enterLine (ledger.renumberSince start numbering, cursor) (line.renumber numbering) =
      ((enterLine (ledger, cursor) line).1.renumberSince start numbering,
        (enterLine (ledger, cursor) line).2) := by
  have sameEntry : SourceLine.entry? (line.renumber numbering) = line.entry? := rfl
  cases reads : line.entry? with
  | none =>
      rw [enterLine_of_silent _ (sameEntry.trans reads), enterLine_of_silent _ reads,
        register_renumberSince since]
  | some entry =>
      have applied := apply_renumberSince since numbering line.number line.raw entry
      have registered := register_renumberSince
        (since_apply since line.number line.raw entry) numbering
      rw [enterLine_of_entry _ (sameEntry.trans reads), enterLine_of_entry _ reads]
      exact (congrArg (fun state => (state.1.register state.2, state.2)) applied).trans
        (congrArg (·, _) registered)

end Entry

theorem foldl_enterLine_renumberSince
    {start ledger : Ledger}
    {cursor : Cursor}
    (since : start.Since ledger cursor)
    (numbering : Int → Int)
    (lines : List SourceLine) :
    (lines.map (·.renumber numbering)).foldl enterLine
        (ledger.renumberSince start numbering, cursor) =
      ((lines.foldl enterLine (ledger, cursor)).1.renumberSince start numbering,
        (lines.foldl enterLine (ledger, cursor)).2) := by
  -- `Since` is kept by every line, and it is all that the step needs.
  induction lines generalizing ledger cursor with
  | nil => rfl
  | cons head rest inductionHypothesis =>
      rw [List.map_cons, List.foldl_cons, enterLine_renumberSince since]
      exact inductionHypothesis (since_enterLine since head)

/-! ## Silent lines -/

/-- What is registered already need not be registered again. -/
theorem register_register
    (ledger : Ledger)
    (cursor : Cursor) :
    (ledger.register cursor).register cursor = ledger.register cursor := by
  unfold register
  cases cursor.current with
  | none => rfl
  | some place =>
      simp only [Option.bind_some]
      cases declared : ledger.declarations[place]? with
      | none => simp [declared]
      | some declaration =>
          have known : (ledger.names.insert declaration.function place).get? declaration.function =
              some place := by
            rw [OrderedMap.get?_insert, if_pos rfl]
          simp [declared, OrderedMap.insert_of_get? known]

/-- Every line leaves the current record registered. -/
theorem register_foldl_enterLine
    {state : Ledger × Cursor}
    (registered : state.1.register state.2 = state.1)
    (lines : List SourceLine) :
    (lines.foldl enterLine state).1.register (lines.foldl enterLine state).2 =
      (lines.foldl enterLine state).1 := by
  induction lines generalizing state with
  | nil => exact registered
  | cons head rest inductionHypothesis =>
      apply inductionHypothesis
      cases reads : head.entry? with
      | none =>
          rw [enterLine_of_silent _ reads]
          exact register_register _ _
      | some entry =>
          rw [enterLine_of_entry _ reads]
          exact register_register _ _

/-- A silent line among the lines of a text finds the current record registered already. -/
theorem foldl_enterLine_silent
    {state : Ledger × Cursor}
    (registered : state.1.register state.2 = state.1)
    {line : SourceLine}
    (silent : line.entry? = none)
    (front back : List SourceLine) :
    (front ++ line :: back).foldl enterLine state = (front ++ back).foldl enterLine state := by
  rw [List.foldl_append, List.foldl_append, List.foldl_cons, enterLine_of_silent _ silent,
    register_foldl_enterLine registered]

/-! ## Inserted lines -/

/-- The numbers of lines after one more line has come in behind the first `position` ones. -/
def numberBelow
    (position : Nat)
    (number : Int) :
    Int :=
  if number ≤ position then number else number + 1

end Ledger

/-- Lines that are numbered from elsewhere on are the lines with other numbers. -/
theorem SourceLine.map_renumber_numbered
    {numbering : Int → Int}
    {first other : Nat}
    {lines : List String}
    (agree : ∀ index < lines.length, numbering (first + index : Nat) = (other + index : Nat)) :
    (numbered first lines).map (·.renumber numbering) = numbered other lines := by
  induction lines generalizing first other with
  | nil => rfl
  | cons head rest inductionHypothesis =>
      have headAgrees : numbering first = other := agree 0 (Nat.succ_pos _)
      have restAgrees : ∀ index < rest.length,
          numbering (first + 1 + index : Nat) = (other + 1 + index : Nat) := by
        intro index within
        rw [Nat.add_right_comm, Nat.add_right_comm other, Nat.add_assoc, Nat.add_assoc]
        exact agree (index + 1) (Nat.succ_lt_succ within)
      rw [numbered_cons, numbered_cons, List.map_cons, inductionHypothesis restAgrees, renumber,
        headAgrees]

namespace Ledger

/-- The lines of a text, renumbered, are those of the text with one line more, but for that line. -/
theorem map_numberBelow_numbered (front back : List String) :
    (SourceLine.numbered 1 (front ++ back)).map (·.renumber (numberBelow front.length)) =
      SourceLine.numbered 1 front ++ SourceLine.numbered (1 + front.length + 1) back := by
  have above : ∀ index < front.length,
      numberBelow front.length (1 + index : Nat) = (1 + index : Nat) := by
    intro index within
    rw [numberBelow, if_pos (by omega)]
  have below : ∀ index < back.length,
      numberBelow front.length (1 + front.length + index : Nat) =
        (1 + front.length + 1 + index : Nat) := by
    intro index _
    rw [numberBelow, if_neg (by omega)]
    omega
  rw [SourceLine.numbered_append, List.map_append, SourceLine.map_renumber_numbered above,
    SourceLine.map_renumber_numbered below]

/-- A line that says nothing may come in anywhere in a text. The ledger is the same afterwards,
except that definitions and orphans that the text adds from below that line have numbers that are
greater by one. -/
theorem read_insertLine
    {line : String}
    (sameLine : '\n' ∉ line.toList)
    (silent : Entry.ofLine? line = none)
    (ledger : Ledger)
    (file text : String)
    {position : Nat}
    (isPosition : position ≤ (textLines text).length) :
    ledger.read file (insertLine text position line) =
      (ledger.read file text).renumberSince ledger (numberBelow position) := by
  obtain ⟨front, back, parted, rfl⟩ : ∃ front back,
      textLines text = front ++ back ∧ front.length = position :=
    ⟨(textLines text).take position, (textLines text).drop position,
      (List.take_append_drop position _).symm, List.length_take_of_le isPosition⟩
  have moved := foldl_enterLine_renumberSince (ledger.since_fresh file)
    (numberBelow front.length) (SourceLine.numbered 1 (front ++ back))
  rw [renumberSince_self, map_numberBelow_numbered] at moved
  let inserted : SourceLine := ⟨line, (1 + front.length : Nat)⟩
  have isSilent : inserted.entry? = none := silent
  have registered : ledger.register { file } = ledger := rfl
  have numberedLines : SourceLine.numbered 1 (front ++ line :: back) =
      SourceLine.numbered 1 front ++
        inserted :: SourceLine.numbered (1 + front.length + 1) back := by
    rw [SourceLine.numbered_append, SourceLine.numbered_cons]
  rw [read_eq_foldl_enterLine, read_eq_foldl_enterLine, SourceLine.ofText, SourceLine.ofText,
    textLines_insertLine sameLine parted, parted, numberedLines,
    foldl_enterLine_silent registered isSilent, moved]

/-- A text with an orphan above its declaration and a definition below it. -/
def counterText : String :=
  "// Does payments for Shop:Till\n// ThreatSpec shop for pay\nfunc pay() \x7b"

/-- A line of code below the orphan leaves it on the first line, and moves the definition from the
third line to the fourth. -/
theorem counterText_insertLine :
    let inserted := empty.read "till.go" (insertLine counterText 1 "import shop")
    '\n' ∉ "import shop".toList ∧ Entry.ofLine? "import shop" = none ∧
      1 ≤ (textLines counterText).length ∧
      inserted = (empty.read "till.go" counterText).renumberSince empty (numberBelow 1) ∧
      (empty.read "till.go" counterText).declarations.map (·.definition.map Definition.line) =
        [some 3] ∧
      inserted.declarations.map (·.definition.map Definition.line) = [some 4] ∧
      inserted.orphans.map Orphan.line = [1] := by
  intro inserted
  have sameLine : '\n' ∉ "import shop".toList := by
    decide
  have silent : Entry.ofLine? "import shop" = none := by
    decide +kernel
  have isPosition : 1 ≤ (textLines counterText).length := by
    decide +kernel
  exact ⟨sameLine, silent, isPosition, read_insertLine sameLine silent empty _ _ isPosition,
    by decide +kernel, by decide +kernel, by decide +kernel⟩

end Ledger

end ThreatModel
