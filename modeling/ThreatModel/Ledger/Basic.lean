import ThreatModel.Entry.Line
import ThreatModel.Ledger.Record
import ThreatModel.OrderedMap

/-!
Contract: the ledger that annotated lines are entered in.

Owns:
- the declarations in order, the declaration that each name stands for, the
  counters, and the orphans;
- the cursor of a text being read, which never leaves its file;
- the entry of one line and of a whole text, and the notice that an entry gives.

Does not own: the reading of a line, or of a file.
-/

namespace ThreatModel

open ThreatModel.Text

/-- An item found before any declaration of its text. -/
structure Orphan where
  file : String
  line : Int
  kind : Entry.ItemKind
  raw : String
deriving DecidableEq, Repr

/-- Where the reading of one text stands: `current` is the place, among the ledger's declarations,
of the last one in this text. -/
structure Cursor where
  file : String
  current : Option Nat := none
deriving DecidableEq, Repr

/-- What a reader may be told about an entry. -/
inductive Notice where
  | matched (function file : String) (line : Int)
  | orphaned (raw file : String) (line : Int)
deriving DecidableEq, Repr

structure Ledger where
  declarations : List Declaration := []
  /-- The place of the declaration that was current last under each name. -/
  names : OrderedMap String Nat := ∅
  /-- How many signatures were seen under each name. -/
  found : OrderedMap String Nat := ∅
  /-- How many records other than tests each declaration has, by its place. -/
  covered : OrderedMap Nat Nat := ∅
  /-- How many tests name each function. -/
  tested : OrderedMap String Nat := ∅
  orphans : List Orphan := []
deriving DecidableEq, Repr

namespace Ledger

def empty : Ledger := {}

instance : EmptyCollection Ledger :=
  ⟨empty⟩

/-- Opens a declaration, to which the items after it belong. -/
def declare
    (ledger : Ledger)
    (cursor : Cursor)
    (declaration : Declaration) :
    Ledger × Cursor :=
  ({ ledger with declarations := ledger.declarations ++ [declaration] },
    { cursor with current := some ledger.declarations.length })

/-- Enters an item under the declaration at `place`. A test counts for the function it names; any
other item covers the declaration. -/
def enter
    (ledger : Ledger)
    (place : Nat)
    (item : Entry.Item)
    (raw : String) :
    Ledger :=
  let entered :=
    { ledger with declarations := ledger.declarations.modify place (·.add item raw) }
  match item with
  | .test function _ _ => { entered with tested := entered.tested.tally function }
  | _ => { entered with covered := entered.covered.tally place }

/-- The declaration that the cursor stands in, if the signature name is that of its function. -/
def signatureTarget?
    (ledger : Ledger)
    (cursor : Cursor)
    (name : String) :
    Option (Nat × Declaration) :=
  cursor.current.bind fun place =>
    ledger.declarations[place]?.bind fun declaration =>
      if Entry.signatureMatches name declaration.function then some (place, declaration)
      else none

/-- Counts a signature, and locates the current function if the signature is its own. -/
def sign
    (ledger : Ledger)
    (cursor : Cursor)
    (number : Int)
    (code name : String) :
    Ledger :=
  let counted := { ledger with found := ledger.found.tally name }
  match counted.signatureTarget? cursor name with
  | none => counted
  | some (place, _) =>
      { counted with
        declarations := counted.declarations.modify place fun declaration =>
          { declaration with definition := some ⟨code, cursor.file, number⟩ } }

/-- The current declaration is what its name stands for from now on. -/
def register
    (ledger : Ledger)
    (cursor : Cursor) :
    Ledger :=
  match cursor.current.bind fun place => ledger.declarations[place]?.map (place, ·) with
  | none => ledger
  | some (place, declaration) =>
      { ledger with names := ledger.names.insert declaration.function place }

/-- The line as records keep it. -/
def rawLine (line : String) : String :=
  String.ofList (dropLineEnd line.toList)

/-- The effect of an entry on ledger and cursor. -/
def apply
    (ledger : Ledger)
    (cursor : Cursor)
    (number : Int)
    (raw : String) :
    Entry → Ledger × Cursor
  | .declaration model function => ledger.declare cursor { model, function, raw }
  | .signature code name => (ledger.sign cursor number code name, cursor)
  | .item item =>
      match cursor.current with
      | some place => (ledger.enter place item raw, cursor)
      | none =>
          ({ ledger with
              orphans := ledger.orphans ++ [⟨cursor.file, number, item.kind, raw⟩] },
            cursor)

/-- Enters one line. Every line, even one that says nothing, registers the current declaration. -/
def consume
    (ledger : Ledger)
    (cursor : Cursor)
    (number : Int)
    (line : String) :
    Ledger × Cursor :=
  let (applied, moved) :=
    match Entry.ofLine? line with
    | none => (ledger, cursor)
    | some entry => ledger.apply cursor number (rawLine line) entry
  (applied.register moved, moved)

/-- What entering the line gives notice of. -/
def notice?
    (ledger : Ledger)
    (cursor : Cursor)
    (number : Int)
    (line : String) :
    Option Notice :=
  match Entry.ofLine? line with
  | some (.signature _ name) =>
      (ledger.signatureTarget? cursor name).map fun (_, declaration) =>
        .matched declaration.function cursor.file number
  | some (.item _) =>
      if cursor.current.isNone then some (.orphaned (rawLine line) cursor.file number) else none
  | _ => none

/-- Enters lines that are numbered from `number` on. -/
def consumeLines
    (ledger : Ledger)
    (cursor : Cursor)
    (number : Int) :
    List String → Ledger × Cursor
  | [] => (ledger, cursor)
  | line :: rest =>
      let (entered, moved) := ledger.consume cursor number line
      consumeLines entered moved (number + 1) rest

/-- The notices of `consumeLines`, in line order. -/
def notices
    (ledger : Ledger)
    (cursor : Cursor)
    (number : Int) :
    List String → List Notice
  | [] => []
  | line :: rest =>
      let (entered, moved) := ledger.consume cursor number line
      (ledger.notice? cursor number line).toList ++ notices entered moved (number + 1) rest

/-- Enters a whole text, its lines numbered from one. -/
def read
    (ledger : Ledger)
    (file text : String) :
    Ledger :=
  (ledger.consumeLines { file } 1 (textLines text)).1

def readNotices
    (ledger : Ledger)
    (file text : String) :
    List Notice :=
  ledger.notices { file } 1 (textLines text)

/-- Enters texts, each given with its file name, one after the other. -/
def readAll
    (ledger : Ledger)
    (files : List (String × String)) :
    Ledger :=
  files.foldl (fun ledger file => ledger.read file.1 file.2) ledger

/-- The declaration that each name stands for, in the order of first declaration. -/
def functions (ledger : Ledger) : OrderedMap String Declaration :=
  ledger.names.filterMap (ledger.declarations[·]?)

end Ledger

end ThreatModel
