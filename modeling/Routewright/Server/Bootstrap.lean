import Routewright.Text.Split

namespace Routewright

structure GoImport where
  path : String
  name : String
deriving DecidableEq, Repr

namespace GoImport

def lastElement (path : String) : String :=
  .ofList (Text.lastElement path.toList)

def standard (path : String) : GoImport :=
  ⟨path, lastElement path⟩

end GoImport

structure Bootstrap where
  imports : List GoImport
  functionName : String
  body : String
deriving DecidableEq, Repr

def bootstrapBody (functionName addr : String) (registrations : List String) : String :=
  "func " ++ functionName ++ "() (chan error, ShutDowner) \x7b\n" ++
  "\tmux := http.NewServeMux()" ++
  String.join (registrations.map ("\n" ++ ·)) ++ "\n\n" ++
  "\tserver := &http.Server\x7bAddr: " ++ addr ++ ", Handler: mux\x7d\n" ++
  "\terrChan := make(chan error, 1)\n" ++
  "\tgo func() \x7b\n" ++
  "\t\terr := server.ListenAndServe()\n" ++
  "\t\tif err != nil && !errors.Is(err, http.ErrServerClosed) \x7b\n" ++
  "\t\t\terrChan <- err\n" ++
  "\t\t\x7d\n" ++
  "\t\x7d()\n" ++
  "\treturn errChan, func() error \x7b\n" ++
  "\t\treturn server.Shutdown(context.Background())\n" ++
  "\t\x7d\n" ++
  "\x7d"

end Routewright
