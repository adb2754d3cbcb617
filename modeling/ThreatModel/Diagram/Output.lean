import ThreatModel.Diagram.Dot
import ThreatModel.Diagram.Mermaid
import ThreatModel.Files.Tree
import ThreatModel.Format

/-!
Contract: diagrams written to files.

Owns:
- the file that each format is written to, and the faults on the way;
- the source that is left behind for the image formats, which need a renderer
  that is not there.

Does not own: the text of a diagram.
-/

namespace ThreatModel

namespace Diagram

inductive OutputFault where
  | noNode (missing : MissingKey)
  | file (fault : Files.Fault)
  | noRenderer
deriving DecidableEq, Repr

def OutputFault.message : OutputFault → String
  | .noNode missing => missing.message
  | .file fault => fault.message
  | .noRenderer =>
      "failed to execute PosixPath('dot'), make sure the Graphviz executables are on " ++
        "your systems' PATH"

/-- What the writing of a diagram leaves: the files, the path written or the fault, and what was
done for an image on the way. -/
structure Output where
  tree : Tree
  result : Except OutputFault String
  actions : List String := []

/-- The folder part of a path as it was given, without slashes at its end. -/
def folderText (path : List Char) : List Char :=
  let upTo := (path.reverse.dropWhile (· ≠ '/')).reverse
  if upTo.all (· = '/') then upTo
  else (upTo.reverse.dropWhile (· = '/')).reverse

/-- A text goes to the given path with a suffix; its folder has to be there. -/
def writeTextFile
    (tree : Tree)
    (path suffix : String)
    (content : Except MissingKey String) :
    Output :=
  match content with
  | .error missing => { tree, result := .error (.noNode missing) }
  | .ok text =>
      let path := normalPath (path ++ suffix)
      match tree.writeText path text with
      | .error fault => { tree, result := .error (.file fault) }
      | .ok written => { tree := written, result := .ok path }

/-- The call of the renderer that fails, as a log shows it. -/
def rendererCall
    (format : DiagramFormat)
    (path : String) :
    String :=
  let file := String.ofList (path.toList.reverse.takeWhile (· ≠ '/')).reverse
  "run [PosixPath('dot'), '-Kdot', '-T" ++ format.name ++ "', '-O', " ++ Text.quoted file ++ "]"

/-- The source of an image goes to the given path itself, for which folders are made. -/
def writeImage
    (tree : Tree)
    (path : String)
    (format : DiagramFormat)
    (content : Except MissingKey String) :
    Output :=
  match content with
  | .error missing => { tree, result := .error (.noNode missing) }
  | .ok text =>
      let folder := String.ofList (folderText path.toList)
      let making :=
        if folder = "" then [] else ["os.makedirs(" ++ Text.quoted folder ++ ")"]
      match tree.makeEach (Pathname.writtenStarts folder.toList) with
      | .error fault => { tree, result := .error (.file fault), actions := making }
      | .ok made =>
          let writing := making ++ ["write lines to " ++ Text.quoted path]
          match made.writeText path text with
          | .error fault => { tree := made, result := .error (.file fault), actions := writing }
          | .ok written =>
              { tree := written
                result := .error .noRenderer
                actions := writing ++ [rendererCall format path] }

/-- Writes a diagram; `direction` is the direction of its ranks. -/
def writeFile
    (diagram : Diagram)
    (direction : String)
    (tree : Tree)
    (path : String)
    (format : DiagramFormat) :
    Output :=
  match format with
  | .dot => writeTextFile tree path ".dot" (Dot.write diagram direction)
  | .mermaid => writeTextFile tree path ".mmd" (Mermaid.write diagram direction)
  | image => writeImage tree path image (Dot.write diagram direction)

end Diagram

end ThreatModel
