import ThreatModel.Diagram.Basic
import ThreatModel.Text.Markup
import ThreatModel.Text.Split

/-!
Contract: diagrams in the DOT language.

Owns:
- the tokens of the language: bare identifiers and numbers, quoted strings, and
  markup strings, which are passed through;
- the tokens of edge ends, in which colons part node, place and compass point;
- the statements of clusters, nodes and edges.

Does not own: the layout of the drawing.
-/

namespace ThreatModel.Diagram.Dot

open ThreatModel.Text

/-- A text in angle brackets is markup. A newline at its end does not count against its form. -/
def isMarkup (text : List Char) : Bool :=
  let body := dropFinalNewline text
  body.head? = some '<' && body.getLast? = some '>'

def isAsciiDigit (character : Char) : Bool :=
  '0' ≤ character && character ≤ '9'

def startsIdentifier (character : Char) : Bool :=
  ('a' ≤ character && character ≤ 'z') || ('A' ≤ character && character ≤ 'Z') || character = '_'

def isIdentifier : List Char → Bool
  | [] => false
  | first :: rest =>
      startsIdentifier first && rest.all fun character =>
        startsIdentifier character || isAsciiDigit character

def isUnsignedNumber (text : List Char) : Bool :=
  let whole := text.takeWhile isAsciiDigit
  match text.dropWhile isAsciiDigit with
  | [] => !whole.isEmpty
  | '.' :: places => places.all isAsciiDigit && !(whole.isEmpty && places.isEmpty)
  | _ => false

def isNumber : List Char → Bool
  | '-' :: rest => isUnsignedNumber rest
  | text => isUnsignedNumber text

def keywords : List String :=
  ["node", "edge", "graph", "digraph", "subgraph", "strict"]

/-- Keywords are keywords in any case. -/
def isKeyword (text : List Char) : Bool :=
  keywords.contains (String.ofList (text.map Char.toLower))

def isBare (text : List Char) : Bool :=
  let body := dropFinalNewline text
  (isIdentifier body || isNumber body) && !isKeyword text

/-- Escapes the quotes that are not escaped yet; `escaped` tells whether an odd run of backslashes
stands before. -/
def escapeQuotes : (escaped : Bool) → List Char → List Char
  | _, [] => []
  | escaped, character :: rest =>
      if character = '\x22' then
        (if escaped then ['\x22'] else ['\\', '\x22']) ++ escapeQuotes false rest
      else
        character :: escapeQuotes (character = '\\' && !escaped) rest

def tokenChars (text : List Char) : List Char :=
  if isMarkup text || isBare text then text
  else '\x22' :: (escapeQuotes false text ++ ['\x22'])

/-- A value, or the name of a node or cluster. -/
def token (text : String) : String :=
  String.ofList (tokenChars text.toList)

/-- The text before the first colon and the text after it. -/
def splitColon (text : List Char) : List Char × List Char :=
  (text.takeWhile (· ≠ ':'), (text.dropWhile (· ≠ ':')).drop 1)

/-- The end of an edge: a node, perhaps with a place on it, perhaps with a compass point. -/
def endpoint (text : String) : String :=
  let (node, rest) := splitColon text.toList
  let (place, compass) := splitColon rest
  String.ofList <|
    tokenChars node ++
      (if rest.isEmpty then [] else
        ':' :: (tokenChars place ++ if compass.isEmpty then [] else ':' :: compass))

/-- One label of an edge in its colour. -/
def labelMarkup (label : EdgeLabel) : String :=
  "<font color=\"" ++ label.color ++ "\">" ++ markup label.text ++ "</font>"

/-- The labels of an edge under each other, as one markup string. -/
def edgeLabel (labels : List EdgeLabel) : String :=
  "<" ++ "<br/>\n".intercalate (labels.map labelMarkup) ++ ">"

def nodeStatement (node : Node) (key : String) : String :=
  let color := (node.color?.map fun color => "color=" ++ token color ++ " ").getD ""
  "\t\t" ++ token key ++ " [label=" ++ token node.label ++ " " ++ color ++
    "shape=" ++ token node.shape.name ++ "]\n"

def clusterStatement
    (cluster : Cluster)
    (members : List Node) :
    String :=
  "\tsubgraph " ++ token cluster.name ++ " \x7b\n" ++
    "\t\tlabel=" ++ token cluster.label ++ " style=dashed\n" ++
    String.join (List.zipWith nodeStatement members cluster.nodes) ++
    "\t\x7d\n"

def edgeStatement (edge : DiagramEdge) : String :=
  "\t" ++ endpoint edge.source ++ " -> " ++ endpoint edge.dest ++
    " [label=" ++ token (edgeLabel edge.labels) ++ " color=" ++ token edge.color ++ "]\n"

/-- The whole drawing; `direction` is the direction of its ranks. -/
def write
    (diagram : Diagram)
    (direction : String) :
    Except MissingKey String := do
  let clusters ← diagram.clusters.values.mapM fun cluster => do
    return clusterStatement cluster (← diagram.members cluster)
  return "digraph G \x7b\n" ++
    "\tcompound=true nodesep=0.6 overlap=scalexy rankdir=" ++ token direction ++ "\n" ++
    String.join clusters ++
    String.join (diagram.edges.map edgeStatement) ++
    "\x7d\n"

end ThreatModel.Diagram.Dot
