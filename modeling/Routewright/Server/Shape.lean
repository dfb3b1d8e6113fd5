import Routewright.Failure
import Routewright.Handler
import Routewright.Text.Letters

namespace Routewright

open Go Text

inductive FrameworkKind
  | http
  | params
deriving DecidableEq, Repr

namespace FrameworkKind

def name : FrameworkKind → String
  | http => "http"
  | params => "params"

def bootstrap : FrameworkKind → String
  | http => "RunHttpServer"
  | params => "RunParamsServer"

def configType : FrameworkKind → String
  | http => "HttpConfig"
  | params => "ParamsConfig"

def defaultAddr : FrameworkKind → String
  | http => ":8000"
  | params => ":8001"

def all : List FrameworkKind :=
  [http, params]

def ofName? (name : String) : Option FrameworkKind :=
  all.find? (·.name == name)

end FrameworkKind

namespace Shape

def requestTypes : List String := ["ResponseWriter", "Request"]

def checkNames (index : Nat) : List String → List Position → Except ShapeIssue Unit
  | expected :: names, p :: rest =>
    if p.type.simpleName? = some expected then checkNames (index + 1) names rest
    else .error (.wrongParam index expected p.type.text)
  | _, _ => .ok ()

def isPlain : TypeExpr → Bool
  | .ident _ => true
  | .pointer (.ident _) => true
  | _ => false

def isVisible (name : String) : Bool :=
  isPredeclared name || name.toList.head?.any isUppercase

def param (index : Nat) (p : Position) : Except ShapeIssue Param :=
  match p.name with
  | none => .error (.unnamedParam index)
  | some name =>
    if !isPlain p.type then .error (.unsupportedParam index name p.type.text)
    else
      match p.type.simpleName?.filter (!isVisible ·) with
      | some type => .error (.hiddenParam index name type)
      | none => .ok ⟨name, p.type, !p.type.isPointer, .auto⟩

def paramsFrom (index : Nat) : List Position → Except ShapeIssue (List Param)
  | [] => .ok []
  | p :: rest =>
    match param index p with
    | .error issue => .error issue
    | .ok v => (paramsFrom (index + 1) rest).map (v :: ·)

def params (s : Signature) : Except ShapeIssue (List Param) :=
  paramsFrom 0 s.positions

end Shape

namespace FrameworkKind

def accepts (kind : FrameworkKind) (s : Signature) : Except ShapeIssue Unit :=
  match kind with
  | http =>
    if s.positions.length = Shape.requestTypes.length then
      Shape.checkNames 0 Shape.requestTypes s.positions
    else .error (.paramCount Shape.requestTypes.length s.positions.length)
  | params =>
    if s.arity = 0 then .error .noParam else (Shape.params s).map fun _ => ()

def serves (kind : FrameworkKind) (s : Signature) : Bool :=
  (kind.accepts s).toBool

def describe (kind : FrameworkKind) (s : Signature) : Except ShapeIssue (List Param) :=
  match kind with
  | http => .ok []
  | params => Shape.params s

end FrameworkKind

end Routewright
