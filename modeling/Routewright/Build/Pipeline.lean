import Routewright.Build.Compiler
import Routewright.Build.Scratch
import Routewright.Environment
import Routewright.Program.Source
import Routewright.Project.GeneralInfo
import Routewright.Project.Loading
import Routewright.Project.Registration
import Routewright.Project.Settings

/-!
Building a project: from its tree to the generated program, and on to the compiled one.

A project that cannot be worked with is left alone. Otherwise the scratch directory is removed
first, and comes into being again only together with a new program.
-/

namespace Routewright

structure BuildOptions where
  root : String
  onlyWrite : Bool := false
  compiler : Option String := none
  output : Option String := none
  frameworks : Option (List String) := none
  markdownDirectory : Option String := none
deriving DecidableEq, Repr

structure BuildReport where
  program : String
  binary : Option String
  handlers : List Registered
deriving DecidableEq, Repr

namespace Build

def defaultCompiler : String := "go"

def defaultOutput : String := "app"

structure Draft where
  source : String
  handlers : List Registered

def frameworks (o : BuildOptions) (s : Settings) : Except Failure (List Framework) :=
  Frameworks.ofNames
    ((o.frameworks.or s.frameworks).getD (FrameworkKind.all.map FrameworkKind.name))

def markdown (o : BuildOptions) (s : Settings) (tree : FileTree) : Option MarkdownDirectory :=
  (o.markdownDirectory.or (s.markdownDirectory.map (Path.join o.root))).map
    (MarkdownDirectory.ofTree tree)

def draft (read : FileReader) (o : BuildOptions) (s : Settings) (tree : FileTree)
    (modulePath : String) : Except Failure Draft := do
  let fresh ← frameworks o s
  let project ← Project.load read tree o.root Scratch.directoryName
  let values ← project.configValues
  let (outcome, configured) := Frameworks.configureAll fresh values
  outcome
  let (outcome, bound) := Frameworks.registerProject (markdown o s tree) configured project
  let handlers ← outcome
  return ⟨← Program.synthesize bound modulePath, handlers⟩

def settings (o : BuildOptions) (tree : FileTree) : Except Failure Settings :=
  (Settings.load tree o.root).map (·.getD {})

def invocation (env : Environment) (o : BuildOptions) (s : Settings) : Invocation where
  program := ((o.compiler.or env.compiler).or s.compiler).getD defaultCompiler
  directory := Scratch.pathIn o.root
  output := (o.output.or s.output).getD defaultOutput

def run (read : FileReader) (compiler : Compiler) (env : Environment) (o : BuildOptions) :
    Work BuildReport := do
  let modulePath ← Project.Manifest.modulePath (← Work.tree) o.root
  discard (Project.Manifest.version (← Work.tree) o.root)
  Scratch.clean (Scratch.pathIn o.root)
  let s ← settings o (← Work.tree)
  let d ← draft read o s (← Work.tree) modulePath
  let program ← Scratch.writeProgram (Scratch.pathIn o.root) d.source
  if o.onlyWrite then return ⟨program, none, d.handlers⟩
  let binary ← compiler.compile (invocation env o s)
  return ⟨program, some binary, d.handlers⟩

end Build

end Routewright
