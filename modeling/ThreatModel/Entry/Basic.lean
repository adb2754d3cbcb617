/-!
Contract: what one line of annotated source can say.

Owns:
- the two directions of a data flow and their words;
- the five kinds of items that belong to a declared function, with component
  references still as written;
- the readings of a line: a declaration, an item, or the signature of a code
  definition.

Does not own: how a line is read, or what a ledger makes of it.
-/

namespace ThreatModel

inductive Direction where
  | sends
  | receives
deriving DecidableEq, Repr

namespace Direction

/-- The word that begins an annotation. -/
def keyword : Direction → String
  | .sends => "Sends"
  | .receives => "Receives"

/-- The name of the direction in records and diagrams. -/
def name : Direction → String
  | .sends => "sends"
  | .receives => "receives"

end Direction

namespace Entry

/-- A fact about the function declared before it. -/
inductive Item where
  | mitigation (component threat mitigation : String) (ref : Option String)
  | exposure (component threat exposure : String) (ref : Option String)
  | activity (action component : String) (ref : Option String)
  | flow (direction : Direction) (subject source dest : String)
  | test (function threat : String) (ref : Option String)
deriving DecidableEq, Repr

/-- The kind under which an item without a declaration is recorded. -/
inductive ItemKind where
  | mitigation
  | exposure
  | activity
  | flow
  | test
deriving DecidableEq, Repr

def ItemKind.name : ItemKind → String
  | .mitigation => "mitigation"
  | .exposure => "exposure"
  | .activity => "does"
  | .flow => "sendreceive"
  | .test => "test"

def Item.kind : Item → ItemKind
  | .mitigation .. => .mitigation
  | .exposure .. => .exposure
  | .activity .. => .activity
  | .flow .. => .flow
  | .test .. => .test

end Entry

/-- The reading of a line that says something. `function` in a signature is the part of `code`
before its first parenthesis that has a name before it. -/
inductive Entry where
  | declaration (model function : String)
  | item (item : Entry.Item)
  | signature (code function : String)
deriving DecidableEq, Repr

end ThreatModel
