import Routewright.Files.Tree
import Routewright.Go.Manifest

namespace Routewright.Project.Manifest

open Go.Manifest (Version)

def fileName : String := "go.mod"

def oldestVersion : Version := ⟨1, 22⟩

def pathIn (root : String) : String :=
  Path.join root fileName

def read (tree : FileTree) (root : String) : Except Failure ByteArray :=
  match tree.read (pathIn root) with
  | .ok bytes => .ok bytes
  | .error .notFound => .error (.configuration (.manifestMissing root))
  | .error cause => .error (.configuration (.manifestUnreadable (pathIn root) cause))

def modulePath (tree : FileTree) (root : String) : Except Failure String := do
  match Go.Manifest.modulePath? (← read tree root) with
  | some path => .ok path
  | none => .error (.configuration (.noModulePath (pathIn root)))

def version (tree : FileTree) (root : String) : Except Failure Version := do
  match Go.Manifest.version? (← read tree root) with
  | some v =>
    if v.atLeast oldestVersion then .ok v
    else .error (.configuration (.oldVersion (pathIn root) v oldestVersion))
  | none => .error (.configuration (.noVersion (pathIn root) oldestVersion))

def usableModule (tree : FileTree) (root : String) : Except Failure String := do
  if !tree.isDirectoryAt root then throw (.configuration (.notDirectory root))
  let path ← modulePath tree root
  discard (version tree root)
  return path

end Routewright.Project.Manifest
