import ThreatModel.Files.Tree

/-!
Contract: reports written to files.

Owns: the file of a report, and the folders that are made for it.

Does not own: the text that is written.
-/

namespace ThreatModel

/-- Writes a text to a path in normal form, after making the folders that it stands in. A fault
leaves the files as they are, but for folders made. -/
def Report.writeFile
    (tree : Tree)
    (path text : String) :
    Tree × Except Files.Fault String :=
  let name := Pathname.ofText path
  match tree.makeFolders name.parent with
  | .error fault => (tree, .error fault)
  | .ok made =>
      match made.writeText name.text text with
      | .error fault => (made, .error fault)
      | .ok written => (written, .ok name.text)

end ThreatModel
