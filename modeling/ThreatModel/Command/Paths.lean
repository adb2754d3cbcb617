import ThreatModel.Command.Request
import ThreatModel.Settings.Load

/-!
Contract: the paths that a command line can have to do with.

Owns:
- the paths that it may name, however they are written;
- the paths that its outputs go to.

Does not own: what is at a path.
-/

namespace ThreatModel.Command

/-- An argument itself, what follows an equals sign in it, and what follows a letter of a short
option. -/
def pathsOfArgument (argument : String) : List String :=
  let letters := argument.toList
  let afterSign := (letters.dropWhile (· ≠ '=')).drop 1
  let attached :=
    if letters.head? = some '-' then
      (List.range letters.length).map fun count => letters.drop (count + 1)
    else
      []
  (letters :: afterSign :: attached).map String.ofList

def namedPaths (arguments : List String) : List String :=
  Settings.usualPath :: arguments.flatMap pathsOfArgument

/-- The paths that a request may write to under its settings. -/
def outputPaths
    (request : Request)
    (settings : Settings) :
    List String :=
  let resolved := request.overrides.apply settings
  let diagram := resolved.diagram.output
  resolved.report.output.toList ++ [diagram, diagram ++ ".dot", diagram ++ ".mmd"]

/-- The request needs the text of standard input, where that is no terminal. -/
def Request.readsInput (request : Request) : Bool :=
  (request.action = .run || request.action = .graph) &&
    (request.callGraph.isNone || request.callGraph = some "-")

end ThreatModel.Command
