import Routewright.Server.Mux
import Routewright.Server.Shape
import Routewright.Server.Verifier

namespace Routewright

open Go

structure Framework where
  kind : FrameworkKind
  mux : MuxTable
  needsJson : Bool
deriving DecidableEq, Repr

namespace Framework

def new (kind : FrameworkKind) : Framework where
  kind := kind
  mux := { defaultAddr := kind.defaultAddr }
  needsJson := false

def registration (kind : FrameworkKind) (r : Route) (h : Handler) : String :=
  match kind with
  | .http => "\tmux.HandleFunc(" ++ r.pattern ++ ", " ++ h.callExpr ++ ")"
  | .params => Verifier.registration r h

def bind (f : Framework) (r : Route) (h : Handler) : Except Failure Framework :=
  (f.mux.claim r h (registration f.kind r h)).map fun mux =>
    { f with
      mux := mux
      needsJson := f.needsJson || (f.kind == .params && h.needsDecoding) }

def bindAll (f : Framework) (h : Handler) : List Route → Except Failure Unit × Framework
  | [] => (.ok (), f)
  | r :: rest =>
    match f.bind r h with
    | .error failure => (.error failure, f)
    | .ok g => g.bindAll h rest

def configure (f : Framework) (value : ConfigValue) : Except Failure Framework :=
  (f.mux.configure f.kind.name f.kind.configType value).map fun mux => { f with mux := mux }

def isConfigured (f : Framework) : Bool :=
  f.mux.isConfigured

def isActive (f : Framework) : Bool :=
  f.isConfigured || !f.mux.bindings.isEmpty

def bootstrap (f : Framework) : Bootstrap :=
  f.mux.bootstrap f.kind.bootstrap (if f.needsJson then ["encoding/json"] else [])

end Framework

namespace Frameworks

def kindOfName (name : String) : Except Failure FrameworkKind :=
  match FrameworkKind.ofName? name with
  | some kind => .ok kind
  | none =>
    .error (.configuration (.unknownFramework name (FrameworkKind.all.map FrameworkKind.name)))

def repeated? (seen : List FrameworkKind) : List FrameworkKind → Option FrameworkKind
  | [] => none
  | kind :: rest => if seen.contains kind then some kind else repeated? (kind :: seen) rest

def ofNames (names : List String) : Except Failure (List Framework) := do
  let kinds ← names.mapM kindOfName
  match repeated? [] kinds with
  | some kind => .error (.configuration (.repeatedBootstrap kind.bootstrap))
  | none => .ok (kinds.map Framework.new)

def serving? (frameworks : List Framework) (s : Signature) : Option Framework :=
  frameworks.find? (·.kind.serves s)

def replace (frameworks : List Framework) (f : Framework) : List Framework :=
  frameworks.map fun g => if g.kind = f.kind then f else g

inductive Handout
  | accepted (frameworks : List Framework)
  | refused (reasons : List (String × ValueIssue))
  | failed (failure : Failure)

def handOut (value : ConfigValue) : List Framework → Handout
  | [] => .refused []
  | f :: rest =>
    let keep : Handout → Handout
      | .accepted frameworks => .accepted (f :: frameworks)
      | outcome => outcome
    if f.isConfigured then keep (handOut value rest)
    else
      match f.configure value with
      | .ok g => .accepted (g :: rest)
      | .error (.value issue) =>
        match handOut value rest with
        | .refused reasons => .refused ((f.kind.name, issue) :: reasons)
        | outcome => keep outcome
      | .error failure => .failed failure

def configureAll (frameworks : List Framework) :
    List ConfigValue → Except Failure Unit × List Framework
  | [] => (.ok (), frameworks)
  | value :: rest =>
    match handOut value frameworks with
    | .accepted frameworks => configureAll frameworks rest
    | .refused reasons => (.error (.unwantedValue value.type reasons), frameworks)
    | .failed failure => (.error failure, frameworks)

end Frameworks

end Routewright
