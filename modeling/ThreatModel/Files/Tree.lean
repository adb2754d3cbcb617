import ThreatModel.Files.Pathname
import ThreatModel.OrderedMap
import ThreatModel.Text.Quoted

/-!
Contract: a tree of files, as a program in one of its folders sees it.

Owns:
- the files and folders, and the folder that path names start from;
- the way from a path name to what it names, and the causes for which there is
  no such way;
- reading, writing, and the making of folders.

Does not own: what the files say.
-/

namespace ThreatModel

open ThreatModel.Text

namespace Files

inductive Cause where
  | notFound
  | exists
  | notFolder
  | isFolder
deriving DecidableEq, Repr

def Cause.message : Cause → String
  | .notFound => "[Errno 2] No such file or directory"
  | .exists => "[Errno 17] File exists"
  | .notFolder => "[Errno 20] Not a directory"
  | .isFolder => "[Errno 21] Is a directory"

/-- A path, as it was given, that could not be used. -/
structure Fault where
  cause : Cause
  path : String
deriving DecidableEq, Repr

def Fault.message (fault : Fault) : String :=
  fault.cause.message ++ ": " ++ quoted fault.path

end Files

/-- Folders and files by the parts of their paths. The root of the tree has no parts. -/
structure Tree where
  folders : List (List String) := []
  files : OrderedMap (List String) (List UInt8) := ∅
  /-- The folder that relative paths start from. -/
  working : List String := []
deriving DecidableEq, Repr

namespace Tree

open Files

inductive Object where
  | folder
  | file (octets : List UInt8)
deriving DecidableEq, Repr

/-- The root is always there. -/
def hasFolder
    (tree : Tree)
    (parts : List String) :
    Bool :=
  parts = [] ∨ parts ∈ tree.folders

def object?
    (tree : Tree)
    (parts : List String) :
    Option Object :=
  if tree.hasFolder parts then some .folder
  else (tree.files.get? parts).map .file

/-- One part further, from a place that has to be a folder. The root is above itself. -/
def enter
    (tree : Tree)
    (place : List String)
    (part : String) :
    Except Cause (List String) :=
  match tree.object? place with
  | none => .error .notFound
  | some (.file _) => .error .notFolder
  | some .folder => .ok (if part = ".." then place.dropLast else place ++ [part])

def follow
    (tree : Tree)
    (place : List String) :
    List String → Except Cause (List String)
  | [] => .ok place
  | part :: rest =>
      match tree.enter place part with
      | .error cause => .error cause
      | .ok next => follow tree next rest

/-- A path that ends in a slash or in a single dot can only name a folder. -/
def namesFolder (path : String) : Bool :=
  match path.toList.reverse.takeWhile (!Pathname.isSlash ·) with
  | [] => true
  | ['.'] => true
  | _ => false

/-- The parts of what a path names, be it there or not; the empty text names nothing. -/
def place?
    (tree : Tree)
    (path : String) :
    Except Cause (List String) :=
  if path = "" then .error .notFound
  else
    let name := Pathname.ofText path
    match tree.follow (if name.root = "" then tree.working else []) name.parts with
    | .error cause => .error cause
    | .ok place =>
        match tree.object? place with
        | some (.file _) => if namesFolder path then .error .notFolder else .ok place
        | _ => .ok place

/-- What is at a path. -/
def look
    (tree : Tree)
    (path : String) :
    Except Cause Object :=
  match tree.place? path with
  | .error cause => .error cause
  | .ok place =>
      match tree.object? place with
      | none => .error .notFound
      | some object => .ok object

def isThere
    (tree : Tree)
    (path : String) :
    Bool :=
  (tree.look path).isOk

def isFolder
    (tree : Tree)
    (path : String) :
    Bool :=
  match tree.look path with
  | .ok .folder => true
  | _ => false

def readOctets
    (tree : Tree)
    (path : String) :
    Except Fault (List UInt8) :=
  match tree.look path with
  | .error cause => .error ⟨cause, path⟩
  | .ok .folder => .error ⟨.isFolder, path⟩
  | .ok (.file octets) => .ok octets

/-- Puts a file at a path whose folder is there. -/
def writeOctets
    (tree : Tree)
    (path : String)
    (octets : List UInt8) :
    Except Fault Tree :=
  match tree.place? path with
  | .error cause => .error ⟨cause, path⟩
  | .ok place =>
      match tree.object? place with
      | some .folder => .error ⟨.isFolder, path⟩
      | existing =>
          if existing.isNone && path.endsWith "/" then .error ⟨.isFolder, path⟩
          else .ok { tree with files := tree.files.insert place octets }

def writeText
    (tree : Tree)
    (path text : String) :
    Except Fault Tree :=
  tree.writeOctets path (Utf8.encode text)

/-- Makes one folder in a folder that is there. -/
def makeFolder
    (tree : Tree)
    (path : String) :
    Except Cause Tree :=
  match tree.place? path with
  | .error cause => .error cause
  | .ok place =>
      match tree.object? place with
      | some _ => .error .exists
      | none => .ok { tree with folders := tree.folders ++ [place] }

/-- Makes a folder, given by its parts last first, after the folders that it stands in. A folder
that is there already is fine. -/
def makeFoldersFrom
    (tree : Tree)
    (root : String) :
    List String → Except Fault Tree
  | [] => .ok tree
  | last :: before =>
      let path := (Pathname.mk root (before.reverse ++ [last])).text
      let attempt := fun (tree : Tree) =>
        match tree.makeFolder path with
        | .ok made => .ok made
        | .error cause => if tree.isFolder path then .ok tree else .error ⟨cause, path⟩
      match tree.makeFolder path with
      | .error .notFound =>
          match makeFoldersFrom tree root before with
          | .error fault => .error fault
          | .ok made => attempt made
      | _ => attempt tree

/-- Makes a folder and all the folders that it stands in. -/
def makeFolders
    (tree : Tree)
    (path : Pathname) :
    Except Fault Tree :=
  tree.makeFoldersFrom path.root path.parts.reverse

/-- Makes a row of folders one after the other. What is there already is passed over, but the last
one has to be a folder. -/
def makeEach
    (tree : Tree) :
    List String → Except Fault Tree
  | [] => .ok tree
  | path :: rest =>
      match tree.makeFolder path with
      | .ok made => makeEach made rest
      | .error cause =>
          if if rest.isEmpty then tree.isFolder path else tree.isThere path then makeEach tree rest
          else .error ⟨cause, path⟩

end Tree

end ThreatModel
