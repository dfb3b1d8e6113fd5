import Routewright.Build.Pipeline
import Routewright.CommandLine.Command

namespace Routewright.CommandLine

structure Reply where
  status : Nat
  output : String
  errors : String
deriving DecidableEq, Repr

def chain (failure : Failure) : String :=
  failure.message ++ ((failure.osCause?.map fun cause => ": " ++ cause.message).getD "")

namespace Command

def context : Command → String
  | build directory _ _ => s!"matte build failed for {directory}"
  | configure directory => s!"{directory} is not a usable Go module"

def run (read : FileReader) (compiler : Compiler) (env : Environment) : Command → Work String
  | build directory onlyWrite _ => do
    let report ← Build.run read compiler env { root := directory, onlyWrite := onlyWrite }
    return match report.binary with
      | some binary => s!"built {binary}"
      | none => s!"wrote {report.program}"
  | configure directory => do
    let modulePath ← Project.Manifest.usableModule (← Work.tree) directory
    return s!"module {modulePath} is ready, run \x60matte build\x60"

def reply (c : Command) : Except Failure String → Reply
  | .ok line => ⟨0, line ++ "\n", ""⟩
  | .error failure => ⟨1, "", s!"error: {c.context}: {chain failure}\n"⟩

end Command

namespace Refusal

def usage : String :=
  "Usage: matte build [-d|--dir DIR] [-n|--no-build] [-v|--verbose]\n" ++
  "       matte configure [-d|--dir DIR]\n" ++
  "       matte help\n"

def message : Refusal → String
  | unknownArgument => "unexpected argument"
  | invalidValue => "a value is required"
  | invalidSubcommand => "unrecognized subcommand"
  | argumentConflict => "an argument cannot be used multiple times"
  | tooManyValues => "unexpected value for an argument"
  | help => usage
  | version => "matte 0.1.0-alpha.1\n"
  | missingSubcommand => usage

def reply (r : Refusal) : Reply :=
  match r with
  | help => ⟨0, r.message, ""⟩
  | version => ⟨0, r.message, ""⟩
  | missingSubcommand => ⟨2, "", r.message⟩
  | _ => ⟨2, "", s!"error: {r.message}\n\n{usage}"⟩

end Refusal

end Routewright.CommandLine
