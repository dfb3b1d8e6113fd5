import Routewright.Go.Declaration

namespace Routewright

open Go

structure Package where
  importPath : String
  /-- The name that the files declare; empty when there are no files. -/
  name : String
  directory : String
  files : List SourceFile
deriving Repr

def Package.functions (p : Package) : List (SourceFile × FuncDecl) :=
  p.files.flatMap fun file => file.functions.map fun f => (file, f)

structure Project where
  root : String
  modulePath : String
  packages : List Package
deriving Repr

def infoFunction : String := "GeneralAPIInfo"

end Routewright
