import Routewright.Files.Workspace
import Routewright.Text.Blank
import Routewright.Text.Utf8

namespace Routewright

open Text

structure Invocation where
  program : String
  directory : String
  output : String
deriving DecidableEq, Repr

structure Execution where
  succeeded : Bool
  output : ByteArray
  errors : ByteArray
  tree : FileTree

abbrev Compiler := Invocation → FileTree → Except OsError Execution

/-- What the compiler says about a failed run: its error texts, or its output if those are blank. -/
def Execution.diagnostics (e : Execution) : List Char :=
  let errors := Utf8.decodeLossy e.errors
  if allBlank errors then Utf8.decodeLossy e.output else errors

namespace Compiler

def start (compiler : Compiler) (i : Invocation) (tree : FileTree) : Except OsError Execution := do
  discard (tree.entries i.directory)
  compiler i tree

def compile (compiler : Compiler) (i : Invocation) : Work String := do
  match compiler.start i (← Work.tree) with
  | .error cause => throw (.io .run i.program cause)
  | .ok e =>
    modify fun w => { w with tree := e.tree }
    if e.succeeded then return Path.join i.directory i.output
    else throw (.compiler (.ofList e.diagnostics))

end Compiler

end Routewright
