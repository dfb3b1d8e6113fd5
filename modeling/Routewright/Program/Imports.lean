import Routewright.Dict
import Routewright.Failure
import Routewright.Go.Literal
import Routewright.Server.Bootstrap

namespace Routewright.Program

open Text

def supervisorImports : List String :=
  ["errors", "log", "os", "os/signal", "syscall"]

def reservedNames : List String :=
  ["main", "mux", "server", "errChan", "errS", "err", "errs", "w", "r", "signals", "serveErrs",
    "shutDowners", "shutDown", "run", "sig"]

def isProjectImport (path modulePath : String) : Bool :=
  match dropStart? modulePath.toList path.toList with
  | none => false
  | some rest => rest.isEmpty || rest.head? == some '/'

structure ImportTable where
  names : Dict String := ∅
  paths : Dict String := ∅

def ImportTable.add (modulePath : String) (t : ImportTable) (i : GoImport) :
    Except ConfigurationIssue ImportTable :=
  if t.names.contains i.path then .ok t
  else
    match t.paths.get? i.name with
    | some other => .error (.sharedImportName other i.path i.name)
    | none =>
      if isProjectImport i.path modulePath && reservedNames.contains i.name then
        .error (.reservedImportName i.path i.name)
      else .ok ⟨t.names.insert i.path i.name, t.paths.insert i.name i.path⟩

def importSpec (i : GoImport) : String :=
  if GoImport.lastElement i.path = i.name then Go.quote i.path
  else i.name ++ " " ++ Go.quote i.path

structure ImportGroups where
  standard : List GoImport
  project : List GoImport
deriving DecidableEq, Repr

def allImports (bootstraps : List Bootstrap) : List GoImport :=
  supervisorImports.map GoImport.standard ++ bootstraps.flatMap Bootstrap.imports

def importGroups (bootstraps : List Bootstrap) (modulePath : String) :
    Except ConfigurationIssue ImportGroups := do
  let t ← (allImports bootstraps).foldlM (ImportTable.add modulePath) {}
  let imports := t.names.entries.map fun e => (⟨e.1, e.2⟩ : GoImport)
  .ok {
    standard := imports.filter (!isProjectImport ·.path modulePath)
    project := imports.filter (isProjectImport ·.path modulePath) }

end Routewright.Program
