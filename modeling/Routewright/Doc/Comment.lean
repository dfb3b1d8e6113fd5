import Routewright.Doc.Attribute
import Routewright.Doc.Decorator
import Routewright.Handler

/-!
Doc comments of handlers: what their decorators and attributes say together.

A line is read by one of the two grammars alone. Routes come from the decorators first and from the
attributes after them.
-/

namespace Routewright

open Text

def Route.ofWords (method path : String) : Except Failure Route := do
  let m ← Attribute.method method.toList
  let path := trimmed path
  if path.toList.head? = some '/' then .ok ⟨m, path⟩
  else .error (.decorator none (.relativePath path))

def Decorator.route (d : Decorator) : Except Failure Route :=
  match d.args with
  | [method, path] => Route.ofWords method path
  | args => .error (.decorator none (.argumentCount args.length))

def Location.source? : Location → Option ParamSource
  | path => some .path
  | query => some .query
  | header => some .header
  | body => none
  | formData => none

structure HandlerDoc where
  recognized : Bool
  decorators : List Decorator
  operation : Operation
  routes : List Route
  sources : Dict ParamSource

namespace HandlerDoc

structure Draft where
  recognized : Bool := false
  decorators : List Decorator := []
  operation : Operation := {}

def readLine (markdown : Option MarkdownDirectory) (draft : Draft) (line : String) :
    Except Failure Draft :=
  let text := trimmed line
  if Decorator.isLine text.toList then
    match Decorator.ofLine text with
    | .error issue => .error (.decorator none issue)
    | .ok decorators =>
      .ok { draft with
        recognized := draft.recognized || !decorators.isEmpty
        decorators := draft.decorators ++ decorators }
  else
    match draft.operation.readLine markdown text with
    | .error failure => .error failure
    | .ok (recognized, operation) =>
      .ok { draft with recognized := draft.recognized || recognized, operation := operation }

def sourcesOf (params : List OperationParam) : Dict ParamSource :=
  Dict.ofList (params.filterMap fun p => p.location.source?.map fun s => (p.name, s))

def complete (draft : Draft) : Except Failure HandlerDoc := do
  let declared ← (draft.decorators.filter (·.name == "path")).mapM Decorator.route
  .ok {
    recognized := draft.recognized
    decorators := draft.decorators
    operation := draft.operation
    routes := declared ++ draft.operation.routes
    sources := sourcesOf draft.operation.params }

def ofLines (markdown : Option MarkdownDirectory) (lines : List String) :
    Except Failure HandlerDoc := do
  complete (← lines.foldlM (readLine markdown) {})

def applySources (doc : HandlerDoc) (h : Handler) : Handler :=
  { h with params := h.params.map fun p =>
      { p with source := (doc.sources.get? p.name).getD p.source } }

def routesFor (doc : HandlerDoc) (h : Handler) : Except Failure (List Route) :=
  if doc.routes.isEmpty then .error (.unroutable h.qualifiedName .noRoute) else .ok doc.routes

end HandlerDoc

end Routewright
