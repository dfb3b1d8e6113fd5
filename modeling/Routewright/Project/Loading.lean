import Routewright.Project.Manifest
import Routewright.Project.Package

namespace Routewright

open Go Text

abbrev FileReader := String → ByteArray → Except Failure SourceFile

def importPath (modulePath root directory : String) : String :=
  let names := Path.relative (Path.components root) (Path.components directory)
  match names.filter (· ≠ ".") with
  | [] => modulePath
  | names => modulePath ++ "/" ++ "/".intercalate names

namespace Loading

def isSource (name : String) : Bool :=
  ".go".toList.isSuffixOf name.toList && !"_test.go".toList.isSuffixOf name.toList

def isHidden (name : String) : Bool :=
  name.toList.head? == some '.' || name.toList.head? == some '_' || name == "testdata"

structure Directory where
  path : String
  entries : List (String × FileTree)

namespace Directory

def listing (d : Directory) : List (String × FileTree) :=
  (FileTree.listing d.entries).entries

def sources (d : Directory) : List (String × ByteArray) :=
  d.listing.filterMap fun
    | (name, .file content _) =>
      if isSource name then some (Path.join d.path name, content) else none
    | _ => none

def subdirectories (left : Option String) (d : Directory) : List Directory :=
  d.listing.filterMap fun
    | (name, .directory entries) =>
      if isHidden name || left == some name then none
      else some ⟨Path.join d.path name, entries⟩
    | _ => none

end Directory

structure Draft where
  name : String := ""
  files : List SourceFile := []
  failure : Option Failure := none

namespace Draft

def fail (d : Draft) (failure : Failure) : Draft :=
  { d with failure := d.failure.or (some failure) }

def add (directory : String) (d : Draft) (path : String) :
    Except Failure SourceFile → Draft
  | .error failure => d.fail failure
  | .ok file =>
    if d.name.isEmpty then { d with name := file.package, files := d.files ++ [file] }
    else if d.name = file.package then { d with files := d.files ++ [file] }
    else d.fail (.source path (.mixedPackages d.name file.package directory))

end Draft

def scan (read : FileReader) (d : Directory) : Draft :=
  d.sources.foldl (fun draft s => draft.add d.path s.1 (read s.1 s.2)) {}

def package (modulePath root : String) (d : Directory) (draft : Draft) : Package :=
  ⟨importPath modulePath root d.path, draft.name, d.path, draft.files⟩

/-- Directories and all those below them, level by level, for at most `n` levels. On the first level
the name `left` is left out. -/
def levels (left : Option String) : Nat → List Directory → List Directory
  | 0, _ => []
  | n + 1, ds => ds ++ levels none n (ds.flatMap (Directory.subdirectories left))

def directories (scratch root : String) (entries : List (String × FileTree)) :
    List Directory :=
  levels (some scratch) (FileTree.directory entries).depth [⟨root, entries⟩]

end Loading

open Loading

def Project.load (read : FileReader) (tree : FileTree) (root scratch : String) :
    Except Failure Project := do
  let modulePath ← Manifest.modulePath tree root
  match tree.lookup root with
  | .error cause => .error (.io .readDirectory root cause)
  | .ok (.file _ _) => .error (.io .readDirectory root .notDirectory)
  | .ok (.directory entries) =>
    let scans := (directories scratch root entries).map fun d => (d, scan read d)
    match scans.findSome? (·.2.failure) with
    | some failure => .error failure
    | none =>
      .ok ⟨root, modulePath, scans.map fun s => package modulePath root s.1 s.2⟩

end Routewright
