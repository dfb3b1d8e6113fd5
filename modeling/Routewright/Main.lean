import Routewright.CommandLine.Reply
import Routewright.Go.FileParser

namespace Routewright

partial def readEntry (entry : IO.FS.DirEntry) : IO (List (String × FileTree)) := do
  try
    if (← entry.path.symlinkMetadata).type == .dir then
      let entries ← (← entry.path.readDir).toList.mapM readEntry
      return [(entry.fileName, .directory entries.flatten)]
    else return [(entry.fileName, .file (← IO.FS.readBinFile entry.path) false)]
  catch _ => return []

def readPath (path : String) : IO (Option FileTree) := do
  try
    let place ← IO.FS.realPath path
    if ← place.isDir then
      return some (.directory (← (← place.readDir).toList.mapM readEntry).flatten)
    else if ← place.pathExists then return some (.file (← IO.FS.readBinFile place) false)
    else return none
  catch _ => return none

def mount (tree : FileTree) (path : String) : IO FileTree := do
  match ← readPath path with
  | none => return tree
  | some t => return (tree.graft path t).toOption.getD tree

def readProject (root : String) : IO FileTree := do
  let tree ← mount (.directory []) root
  match (Settings.load tree root).toOption.join.bind Settings.markdownDirectory with
  | none => return tree
  | some directory => mount tree (Path.join root directory)

def makeChange : FileChange → IO Unit
  | .removeDirectory path => IO.FS.removeDirAll path
  | .makeDirectory path => IO.FS.createDirAll path
  | .write path content => IO.FS.writeFile path content

def noCompiler : Compiler := fun _ _ => .error .notSupported

open CommandLine in
def carryOut (env : Environment) (c : Command) : IO Reply := do
  let root := match c with
    | .build directory _ _ => directory
    | .configure directory => directory
  let (outcome, w) := (c.run Go.SourceFile.ofBytes noCompiler env).run ⟨← readProject root, []⟩
  w.changes.forM makeChange
  return c.reply outcome

def readEnvironment : IO Environment := do
  let compiler ← IO.getEnv Environment.compilerVariable
  let filter ← IO.getEnv Environment.logVariable
  return .ofLookup fun key =>
    if key = Environment.compilerVariable then compiler
    else if key = Environment.logVariable then filter
    else none

end Routewright

open Routewright in
def main (args : List String) : IO UInt32 := do
  let reply ← match CommandLine.Command.ofArgs args with
    | .error refusal => pure refusal.reply
    | .ok command => carryOut (← readEnvironment) command
  IO.print reply.output
  IO.eprint reply.errors
  return reply.status.toUInt32
