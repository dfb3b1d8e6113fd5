import Routewright.Dict
import Routewright.Failure
import Routewright.Files.Path

/-!
Trees of directories and files, and what the operating system does with them.

A path is looked up from the working directory. What lies outside it is visible as far as it is an
entry of it by the name of a slash, or of two dots.
-/

namespace Routewright

inductive FileTree
  | file (content : ByteArray) (executable : Bool)
  | directory (entries : List (String × FileTree))
deriving Inhabited

namespace FileTree

def child? (entries : List (String × FileTree)) (name : String) : Option FileTree :=
  (entries.find? (·.1 == name)).map (·.2)

def isDirectory : FileTree → Bool
  | directory _ => true
  | file _ _ => false

def find : FileTree → List String → Except OsError FileTree
  | t, [] => .ok t
  | file _ _, _ :: _ => .error .notDirectory
  | directory entries, name :: rest =>
    match child? entries name with
    | none => .error .notFound
    | some t => t.find rest

def above : List String → List String
  | [] => [".."]
  | name :: rest =>
    if name = ".." then ".." :: name :: rest else if name = "/" then name :: rest else rest

/-- The names that lead from a tree to a path, given the names already passed, last first. -/
def namesFrom (tree : FileTree) (passed : List String) :
    List String → Except OsError (List String)
  | [] => .ok passed.reverse
  | part :: rest =>
    if part = "." then namesFrom tree passed rest
    else if part = ".." then
      match tree.find passed.reverse with
      | .error cause => .error cause
      | .ok (file _ _) => .error .notDirectory
      | .ok (directory _) => namesFrom tree (above passed) rest
    else namesFrom tree (part :: passed) rest

def names (tree : FileTree) (path : String) : Except OsError (List String) :=
  if path.isEmpty then .error .notFound else namesFrom tree [] (Path.components path)

def lookup (tree : FileTree) (path : String) : Except OsError FileTree := do
  tree.find (← tree.names path)

def pathExists (tree : FileTree) (path : String) : Bool :=
  match tree.lookup path with
  | .ok _ => true
  | .error _ => false

def isDirectoryAt (tree : FileTree) (path : String) : Bool :=
  match tree.lookup path with
  | .ok t => t.isDirectory
  | .error _ => false

def read (tree : FileTree) (path : String) : Except OsError ByteArray := do
  match ← tree.lookup path with
  | file content _ => .ok content
  | directory _ => .error .isDirectory

/-- Entries by name; the first of a name counts. -/
def listing (entries : List (String × FileTree)) : Dict FileTree :=
  Dict.ofList entries.reverse

def entries (tree : FileTree) (path : String) : Except OsError (Dict FileTree) := do
  match ← tree.lookup path with
  | file _ _ => .error .notDirectory
  | directory entries => .ok (listing entries)

mutual

def depth : FileTree → Nat
  | file _ _ => 0
  | directory entries => depthOf entries + 1

def depthOf : List (String × FileTree) → Nat
  | [] => 0
  | (_, t) :: rest => max (depth t) (depthOf rest)

end

def alter (change : Option FileTree → Except OsError (Option FileTree)) :
    List String → FileTree → Except OsError FileTree
  | [], _ => .error .permissionDenied
  | _ :: _, file _ _ => .error .notDirectory
  | [name], directory entries =>
    match change (child? entries name) with
    | .error cause => .error cause
    | .ok none => .ok (directory (entries.filter (·.1 != name)))
    | .ok (some t) => .ok (directory (upsert name t entries))
  | name :: next :: rest, directory entries =>
    match child? entries name with
    | none => .error .notFound
    | some t =>
      (alter change (next :: rest) t).map fun t => directory (upsert name t entries)

def makeDirectoryAt : List String → FileTree → Except OsError FileTree
  | [], file _ _ => .error .fileExists
  | [], directory entries => .ok (directory entries)
  | _ :: _, file _ _ => .error .notDirectory
  | name :: rest, directory entries =>
    let t := (child? entries name).getD (directory [])
    (makeDirectoryAt rest t).map fun t => directory (upsert name t entries)

def makeDirectory (tree : FileTree) (path : String) : Except OsError FileTree := do
  makeDirectoryAt (← tree.names path) tree

def graft (tree : FileTree) (path : String) (t : FileTree) : Except OsError FileTree := do
  match ← tree.names path with
  | [] => return t
  | names => alter (fun _ => .ok (some t)) names (← makeDirectoryAt names.dropLast tree)

def write (tree : FileTree) (path : String) (content : ByteArray) (executable : Bool) :
    Except OsError FileTree := do
  alter (fun
    | some (directory _) => .error .isDirectory
    | some (file _ old) => .ok (some (file content (old || executable)))
    | none => .ok (some (file content executable))) (← tree.names path) tree

def removeDirectory (tree : FileTree) (path : String) : Except OsError FileTree := do
  alter (fun
    | some (directory _) => .ok none
    | some (file _ _) => .error .notDirectory
    | none => .error .notFound) (← tree.names path) tree

end FileTree

end Routewright
