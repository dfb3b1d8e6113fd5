import Routewright.Program.Imports
import Routewright.Server.Framework

namespace Routewright.Program

def importLines (groups : ImportGroups) : List String :=
  let line (i : GoImport) := "\t" ++ importSpec i
  groups.standard.map line ++
    (if groups.standard.isEmpty || groups.project.isEmpty then [] else [""]) ++
    groups.project.map line

def supervisorTypes : String :=
  "\n)\n\n" ++
  "// ShutDowner gracefully stops one server.\n" ++
  "type ShutDowner func() error\n\n" ++
  "// ServerRunner starts one server and returns a channel that receives at most\n" ++
  "// one unexpected serve error, plus the function that shuts the server down.\n" ++
  "type ServerRunner func() (chan error, ShutDowner)\n\n" ++
  "var serverRunners = []ServerRunner\x7b"

def supervisorMain : String :=
  "\nfunc osSignal() chan os.Signal \x7b\n" ++
  "\tsignals := make(chan os.Signal, 1)\n" ++
  "\tsignal.Notify(signals, os.Interrupt, syscall.SIGTERM)\n" ++
  "\treturn signals\n" ++
  "\x7d\n\n" ++
  "func main() \x7b\n" ++
  "\tsignals := osSignal()\n" ++
  "\tserveErrs := make(chan error, len(serverRunners))\n" ++
  "\tshutDowners := make([]ShutDowner, 0, len(serverRunners))\n" ++
  "\tfor _, run := range serverRunners \x7b\n" ++
  "\t\tserverErr, shutDown := run()\n" ++
  "\t\tshutDowners = append(shutDowners, shutDown)\n" ++
  "\t\tgo func(serverErr chan error) \x7b\n" ++
  "\t\t\tserveErrs <- <-serverErr\n" ++
  "\t\t\x7d(serverErr)\n" ++
  "\t\x7d\n\n" ++
  "\tselect \x7b\n" ++
  "\tcase err := <-serveErrs:\n" ++
  "\t\tlog.Fatalf(\"server stopped unexpectedly: %v\", err)\n" ++
  "\tcase sig := <-signals:\n" ++
  "\t\tlog.Printf(\"received %v, shutting down\", sig)\n" ++
  "\t\tvar errs []error\n" ++
  "\t\tfor _, shutDown := range shutDowners \x7b\n" ++
  "\t\t\tif err := shutDown(); err != nil \x7b\n" ++
  "\t\t\t\terrs = append(errs, err)\n" ++
  "\t\t\t\x7d\n" ++
  "\t\t\x7d\n" ++
  "\t\tif err := errors.Join(errs...); err != nil \x7b\n" ++
  "\t\t\tlog.Printf(\"shutdown failed: %v\", err)\n" ++
  "\t\t\tos.Exit(1)\n" ++
  "\t\t\x7d\n" ++
  "\t\x7d\n" ++
  "\x7d\n"

def text (groups : ImportGroups) (bootstraps : List Bootstrap) : String :=
  "// Code generated by matte. DO NOT EDIT.\n\npackage main\n\nimport (" ++
  String.join ((importLines groups).map ("\n" ++ ·)) ++
  supervisorTypes ++
  String.join (bootstraps.map fun b => "\n\t" ++ b.functionName ++ ",") ++ "\n\x7d\n" ++
  String.join (bootstraps.map fun b => "\n" ++ b.body ++ "\n") ++
  supervisorMain

def render (bootstraps : List Bootstrap) (modulePath : String) : Except Failure String :=
  match importGroups bootstraps modulePath with
  | .error issue => .error (.configuration issue)
  | .ok groups => .ok (text groups bootstraps)

def synthesize (frameworks : List Framework) (modulePath : String) : Except Failure String :=
  render ((frameworks.filter Framework.isActive).map Framework.bootstrap) modulePath

end Routewright.Program
