import Routewright.Doc.Comment
import Routewright.Project.Package
import Routewright.Server.Framework

/-!
Registration: every documented function of a project is bound to the first framework that serves it.

What a function asks for is told by its doc comment and its parameter list alone (`Candidate.of`);
binding the routes is the only step that depends on what was bound before.
-/

namespace Routewright

open Go

structure Registered where
  framework : FrameworkKind
  handler : String
  routes : List Route
deriving DecidableEq, Repr

structure Candidate where
  framework : Framework
  handler : Handler
  routes : List Route

def Handler.ofFunction (p : Package) (f : FuncDecl) (params : List Param) : Handler :=
  ⟨p.importPath, p.name, f.name, params⟩

namespace Candidate

def ofDoc (framework : Framework) (h : Handler) (doc : HandlerDoc) :
    Except Failure (Option Candidate) :=
  if !doc.recognized then .ok none
  else if h.package = "main" then
    .error (.configuration (.handlerInMain h.qualifiedName))
  else
    let h := doc.applySources h
    (doc.routesFor h).map fun routes => some ⟨framework, h, routes⟩

def of (frameworks : List Framework) (markdown : Option MarkdownDirectory) (p : Package)
    (f : FuncDecl) : Except Failure (Option Candidate) :=
  if f.hasReceiver then .ok none
  else
    match Frameworks.serving? frameworks f.signature with
    | none => .ok none
    | some framework =>
      match framework.kind.describe f.signature with
      | .error issue => .error (.shape issue)
      | .ok params =>
        let h := Handler.ofFunction p f params
        match f.doc with
        | none => .error (.unroutable h.qualifiedName .noDoc)
        | some lines =>
          match HandlerDoc.ofLines markdown lines with
          | .error failure => .error failure
          | .ok doc => ofDoc framework h doc

end Candidate

namespace Frameworks

/-- Registers a function. Routes that were bound before one fails stay bound. -/
def register (frameworks : List Framework) (markdown : Option MarkdownDirectory) (p : Package)
    (f : FuncDecl) : Except Failure (Option Registered) × List Framework :=
  match Candidate.of frameworks markdown p f with
  | .error failure => (.error failure, frameworks)
  | .ok none => (.ok none, frameworks)
  | .ok (some candidate) =>
    let (outcome, framework) := candidate.framework.bindAll candidate.handler candidate.routes
    (outcome.map fun _ =>
        some ⟨framework.kind, candidate.handler.qualifiedName, candidate.routes⟩,
      replace frameworks framework)

end Frameworks

structure Declaration where
  package : Package
  file : SourceFile
  function : FuncDecl

namespace Declaration

def place (d : Declaration) : Place :=
  ⟨d.file.path, d.function.line, d.function.name⟩

def isOffered (d : Declaration) : Bool :=
  !d.function.hasReceiver && d.function.doc.isSome

def ofPackage (p : Package) : List Declaration :=
  (p.functions.map fun d => ⟨p, d.1, d.2⟩).filter isOffered

/-- The functions of a project that are offered; the root package keeps its general information
function to itself. -/
def ofProject (p : Project) : List Declaration :=
  match p.packages with
  | [] => []
  | root :: rest =>
    (ofPackage root).filter (·.function.name != infoFunction) ++ rest.flatMap ofPackage

end Declaration

namespace Frameworks

def registerAll (markdown : Option MarkdownDirectory) (frameworks : List Framework) :
    List Declaration → Except Failure (List Registered) × List Framework
  | [] => (.ok [], frameworks)
  | d :: rest =>
    match register frameworks markdown d.package d.function with
    | (.error failure, frameworks) => (.error (failure.locate d.place), frameworks)
    | (.ok registered, frameworks) =>
      let (outcome, frameworks) := registerAll markdown frameworks rest
      (outcome.map (registered.toList ++ ·), frameworks)

def registerProject (markdown : Option MarkdownDirectory) (frameworks : List Framework)
    (p : Project) : Except Failure (List Registered) × List Framework :=
  registerAll markdown frameworks (Declaration.ofProject p)

end Frameworks

end Routewright
