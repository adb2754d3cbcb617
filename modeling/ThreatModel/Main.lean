import ThreatModel.Command.Paths
import ThreatModel.Command.Perform
import ThreatModel.Files.Change

/-!
Contract: the program.

Owns:
- the tree of the files and folders that a command line can have to do with;
- the writing of what an execution changes, and of what it prints.

Does not own: any decision of a command.
-/

namespace ThreatModel

/-- What is at a path of the file system. Something that cannot be read is not there. -/
def objectAt? (path : String) : IO (Option Tree.Object) := do
  try
    let octets ← IO.FS.readBinFile path
    return some (.file octets.toList)
  catch
    | .inappropriateType .. => return some .folder
    | _ => return none

/-- Adds what is at a path, and the folders on the way there. -/
def Tree.addPath
    (tree : Tree)
    (path : String) :
    IO Tree := do
  let name := Pathname.ofText path
  let mut grown := tree
  for count in [1:name.parts.length + 1] do
    let part := (Pathname.mk name.root (name.parts.take count)).text
    if let .ok parts := grown.place? part then
      match ← objectAt? part with
      | some .folder =>
          unless grown.hasFolder parts do
            grown := { grown with folders := grown.folders ++ [parts] }
      | some (.file octets) => grown := { grown with files := grown.files.insert parts octets }
      | none => pure ()
  return grown

/-- The tree of all files, of which only the folders down to the working folder are there yet. -/
def Tree.ofWorkingFolder : IO Tree := do
  let working := (Pathname.ofText (toString (← IO.currentDir))).parts
  let folders := (List.range working.length).map fun count => working.take (count + 1)
  return { folders := folders, working := working }

/-- The path of the parts of a file. -/
def pathOf (parts : List String) : String :=
  "/" ++ "/".intercalate parts

def Tree.writeChanges (before after : Tree) : IO Unit := do
  for folder in before.newFolders after do
    IO.FS.createDir (pathOf folder)
  for change in before.changes after do
    IO.FS.writeBinFile (pathOf change.parts) ⟨change.octets.toArray⟩

partial def readToEnd
    (stream : IO.FS.Stream)
    (octets : ByteArray) :
    IO ByteArray := do
  let more ← stream.read 65536
  if more.isEmpty then return octets
  else readToEnd stream (octets ++ more)

/-- Standard input, which is read only for a request that needs it. -/
def readInput (request : Command.Request) : IO Command.Input := do
  let stream ← IO.getStdin
  if !request.readsInput then
    return .terminal
  else if request.callGraph.isNone && (← stream.isTty) then
    return .terminal
  else
    return .ofOctets (← readToEnd stream .empty).toList

def runProgram (arguments : List String) : IO UInt32 := do
  let mut tree ← Tree.ofWorkingFolder
  for path in Command.namedPaths arguments do
    tree ← tree.addPath path
  let mut input := Command.Input.terminal
  if let .ok (.request request) := Command.readArguments tree arguments then
    if let .ok settings := Settings.load tree request.settings then
      for path in Command.outputPaths request settings do
        tree ← tree.addPath path
    input ← readInput request
  let execution := Command.execute arguments tree input
  tree.writeChanges execution.tree
  IO.print execution.stdout
  IO.eprint execution.stderr
  if let some failure := execution.failure then
    IO.eprintln failure.message
  return .ofNat execution.exitCode

end ThreatModel

def main (arguments : List String) : IO UInt32 :=
  ThreatModel.runProgram arguments
