import OfflineAgent.Store.Tables

/-!
Directories and files, found by the paths that lead to them.
-/

namespace OfflineAgent.Machine

inductive FileNode where
  | directory
  | file (content : ByteArray)
  | database (tables : Store.Tables)
deriving DecidableEq

inductive FileFault where
  | missing
  | alreadyThere
  | notDirectory
  | isDirectory
  | notText
deriving DecidableEq, Repr

def FileFault.message : FileFault → String
  | missing => "No such file or directory (os error 2)"
  | alreadyThere => "File exists (os error 17)"
  | notDirectory => "Not a directory (os error 20)"
  | isDirectory => "Is a directory (os error 21)"
  | notText => "stream did not contain valid UTF-8"

/-- The names from the root to a node. -/
abbrev Location := List String

structure FileTree where
  workingDirectory : Location
  nodes : List (Location × FileNode)
deriving DecidableEq

/-! Paths -/

def splitPath (path : String) : List String :=
  (Text.split '/' path.toList).map String.ofList

def isAbsolute (path : String) : Bool :=
  path.startsWith "/"

/-- A path below another one, which is kept as it is written. -/
def joinPath (path name : String) : String :=
  if isAbsolute name || path.isEmpty then name
  else if path.endsWith "/" then path ++ name
  else path ++ "/" ++ name

/-- The path of what a path lies in; none for the root and the empty path. -/
def parentPath? (path : String) : Option String :=
  let names := (splitPath path).filter fun name => !name.isEmpty && name != "."
  let lead := if isAbsolute path then "/" else if path.startsWith "./" then "./" else ""
  match names.dropLast, names with
  | _, [] => if path.startsWith "." then some "" else none
  | [], [_] => some (if lead = "./" then "." else lead)
  | front, _ => some (lead ++ "/".intercalate front)

/-- Where a name leads from a directory. -/
def nextLocation (location : Location) (name : String) : Location :=
  if name.isEmpty || name = "." then location
  else if name = ".." then location.dropLast
  else location ++ [name]

namespace FileTree

/-- The root is always there. -/
def node? (tree : FileTree) (location : Location) : Option FileNode :=
  if location.isEmpty then some .directory
  else (tree.nodes.find? (·.1 = location)).map (·.2)

def put (tree : FileTree) (location : Location) (node : FileNode) : FileTree :=
  { tree with nodes := tree.nodes.filter (·.1 ≠ location) ++ [(location, node)] }

def base (tree : FileTree) (path : String) : Location :=
  if isAbsolute path then [] else tree.workingDirectory

def step (tree : FileTree) (location : Location) (name : String) : Except FileFault Location :=
  match tree.node? location with
  | some .directory => .ok (nextLocation location name)
  | some _ => .error .notDirectory
  | none => .error .missing

/-- Where a path leads. There may be nothing there yet, but there is a directory to hold it. -/
def locate (tree : FileTree) (path : String) : Except FileFault Location :=
  if path.isEmpty then .error .missing
  else (splitPath path).foldlM tree.step (tree.base path)

def find (tree : FileTree) (path : String) : Except FileFault FileNode := do
  match tree.node? (← tree.locate path) with
  | some node => return node
  | none => throw .missing

def has (tree : FileTree) (path : String) : Bool :=
  match tree.find path with
  | .ok _ => true
  | .error _ => false

def readText (tree : FileTree) (path : String) : Except FileFault (List Char) := do
  match ← tree.find path with
  | .directory => throw .isDirectory
  | .database _ => throw .notText
  | .file content =>
    match Utf8.decode content.toList with
    | .ok text => return text
    | .error _ => throw .notText

def createFrom (tree : FileTree) (location : Location) : List String → Except FileFault FileTree
  | [] => .ok tree
  | name :: rest => do
    let next ← tree.step location name
    match tree.node? next with
    | none => (tree.put next .directory).createFrom next rest
    | some .directory => tree.createFrom next rest
    | some _ => throw (if rest.isEmpty then .alreadyThere else .notDirectory)

/-- Creates a directory and those around it, as far as they are not there. -/
def createDirectories (tree : FileTree) (path : String) : Except FileFault FileTree :=
  if path.isEmpty then .ok tree else tree.createFrom (tree.base path) (splitPath path)

def filesIn (tree : FileTree) (path : String) : List String :=
  match tree.locate path with
  | .ok location =>
    tree.nodes.filterMap fun (found, node) =>
      if found.dropLast = location && found != [] && node != .directory then found.getLast?
      else none
  | .error _ => []

end FileTree

end OfflineAgent.Machine
