import Routewright.Files.Tree

namespace Routewright

inductive FileChange
  | removeDirectory (path : String)
  | makeDirectory (path : String)
  | write (path : String) (content : String)
deriving DecidableEq, Repr

namespace FileChange

def apply (tree : FileTree) : FileChange → Except OsError FileTree
  | removeDirectory path => tree.removeDirectory path
  | makeDirectory path => tree.makeDirectory path
  | write path content => tree.write path content.toUTF8 false

def path : FileChange → String
  | removeDirectory path => path
  | makeDirectory path => path
  | write path _ => path

def action : FileChange → FileAction
  | removeDirectory _ => .removeScratch
  | makeDirectory _ => .createScratch
  | write _ _ => .write

end FileChange

/-- A tree with the changes that led to it, first to last. -/
structure Workspace where
  tree : FileTree
  changes : List FileChange := []

/-- Work that ends in a value or a failure; changes made before a failure stay. -/
abbrev Work (α : Type) := ExceptT Failure (StateM Workspace) α

namespace Work

def tree : Work FileTree :=
  return (← get).tree

def perform (change : FileChange) : Work Unit := do
  let w ← get
  match change.apply w.tree with
  | .error cause => throw (.io change.action change.path cause)
  | .ok tree => set (Workspace.mk tree (w.changes ++ [change]))

end Work

end Routewright
