import Routewright.Dict
import Routewright.Json.Value
import Routewright.Route

namespace Routewright

inductive Location
  | query
  | path
  | header
  | body
  | formData
deriving DecidableEq, Repr

namespace Location

def name : Location → String
  | query => "query"
  | path => "path"
  | header => "header"
  | body => "body"
  | formData => "formData"

def all : List Location :=
  [query, path, header, body, formData]

def ofName? (name : String) : Option Location :=
  all.find? (·.name == name)

end Location

structure OperationParam where
  name : String
  location : Location
  dataType : String
  required : Bool
  description : String
deriving DecidableEq, Repr

structure ResponseHeader where
  kind : String
  description : String
deriving DecidableEq, Repr

structure Response where
  kind : Option String := none
  dataType : Option String := none
  description : String := ""
  headers : Dict ResponseHeader := ∅
deriving DecidableEq, Repr

structure Operation where
  id : Option String := none
  summary : Option String := none
  description : String := ""
  tags : List String := []
  accept : List String := []
  produce : List String := []
  params : List OperationParam := []
  responses : Dict Response := ∅
  routes : List Route := []
  /-- Alternatives, each of which asks for the scopes of some schemes. -/
  security : List (Dict (List String)) := []
  deprecated : Bool := false
  codeSamples : Option Json := none
  extensions : Dict Json := ∅
  metadata : Dict String := ∅
deriving Repr

inductive Change
  | describe (text : String)
  | summarize (text : String)
  | identify (text : String)
  | tag (tags : List String)
  | accept (types : List String)
  | produce (types : List String)
  | param (param : OperationParam)
  | respond (codes : List String) (kind dataType : Option String) (description : String)
  /-- A header of the given codes, or of every code that is known already. -/
  | header (codes : Option (List String)) (name : String) (header : ResponseHeader)
  | route (route : Route)
  | secure (alternatives : List (Dict (List String)))
  | deprecate
  | codeSamples (value : Json)
  | extend (name : String) (value : Json)
  | note (name text : String)
deriving Repr

def Change.recognized : Change → Bool
  | note _ _ => false
  | _ => true

namespace Response

def withHeader (name : String) (header : ResponseHeader) (r : Response) : Response :=
  { r with headers := r.headers.insert name header }

def declare (kind dataType : Option String) (description : String) (r : Response) : Response :=
  { r with kind := kind, dataType := dataType, description := description }

end Response

def updateResponses (f : Response → Response) (codes : List String) (responses : Dict Response) :
    Dict Response :=
  codes.foldl (fun d code => d.modify code {} f) responses

namespace Operation

def apply (op : Operation) : Change → Operation
  | .describe text =>
    { op with description := if op.description = "" then text else op.description ++ "\n" ++ text }
  | .summarize text => { op with summary := some text }
  | .identify text => { op with id := some text }
  | .tag tags => { op with tags := op.tags ++ tags }
  | .accept types => { op with accept := op.accept ++ types }
  | .produce types => { op with produce := op.produce ++ types }
  | .param param => { op with params := op.params ++ [param] }
  | .respond codes kind dataType description =>
    { op with
      responses := updateResponses (.declare kind dataType description) codes op.responses }
  | .header (some codes) name header =>
    { op with responses := updateResponses (.withHeader name header) codes op.responses }
  | .header none name header =>
    { op with responses := op.responses.mapValues (.withHeader name header) }
  | .route route => { op with routes := op.routes ++ [route] }
  | .secure alternatives => { op with security := op.security ++ alternatives }
  | .deprecate => { op with deprecated := true }
  | .codeSamples value => { op with codeSamples := some value }
  | .extend name value => { op with extensions := op.extensions.insert name value }
  | .note name text => { op with metadata := op.metadata.insert name text }

end Operation

end Routewright
